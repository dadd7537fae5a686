import DiskServer.Construction.Clients.ErrorEnvelope

namespace DiskServer.Clients

variable {write : Json → String} {info : ErrorInfo}

/-- Every reading gives the code and the message of the server, and the upload handlers react to the
code. -/
structure EnvelopeAgrees (write : Json → String) (info : ErrorInfo) : Prop where
  web : ∀ blob statusText, rejectApiError (responseError write info) blob statusText =
    ⟨.number info.code.toInt, .string ((errorMessageMap info.code.toInt).getD info.message)⟩
  envelope : ∀ parseError, decodeEnvelope (responseError write info) parseError =
    .error ⟨info.code.toInt, getHttpStatus info.code, textBytes info.message⟩
  body : readBodyError (responseError write info) =
    ⟨info.code.toInt, getHttpStatus info.code, textBytes info.message⟩
  init : handleInitError (responseError write info) = uploadReaction (errorFromJson (errorBody info))
  chunk : handleChunkError (responseError write info) = uploadReaction (errorFromJson (errorBody info))
  complete : handleCompleteError (responseError write info) =
    uploadReaction (errorFromJson (errorBody info))
  metadata : handleMetadataError (responseError write info) = errorFromJson (errorBody info)
  download : handleDownloadError (responseError write info) = errorFromJson (errorBody info)

theorem field_code (info : ErrorInfo) : (errorBody info).field "code" = .number info.code.toInt := rfl

theorem field_message (info : ErrorInfo) : (errorBody info).field "message" = .string info.message := rfl

theorem toInt_ne_zero (failing : info.code ≠ .success) : (info.code.toInt : Int) ≠ 0 := by
  intro zero
  apply failing
  generalize info.code = code at zero
  cases code <;> first | rfl | exact absurd zero (by decide)

theorem translated_message (code : Int) (message : String) :
    translated (.number code) (.string message) = .string ((errorMessageMap code).getD message) := by
  rw [translated]
  cases errorMessageMap code with
  | none => rfl
  | some text => rfl

theorem responseBody_error (blob : Bool) :
    responseBody (responseError write info) blob = some (errorBody info) := by
  cases blob with
  | true =>
      have json : includesText "application/json; charset=utf-8" "application/json" = true := by
        decide +kernel
      simp only [responseBody, responseError, json, if_true]
      rfl
  | false => rfl

/-- The web client keeps the code and shows its own text or the message. -/
theorem rejectApiError_error (failing : info.code ≠ .success) (blob : Bool) (statusText : String) :
    rejectApiError (responseError write info) blob statusText =
      ⟨.number info.code.toInt, .string ((errorMessageMap info.code.toInt).getD info.message)⟩ := by
  have nonzero : number? ((errorBody info).field "code") ≠ some 0 := by
    rw [field_code]
    exact fun same => toInt_ne_zero failing (Option.some.inj same)
  simp only [rejectApiError, responseBody_error, if_neg nonzero]
  rw [field_code, field_message, translated_message]

theorem unmarshalEnvelope_error :
    (responseError write info).body.bind unmarshalEnvelope =
      some ⟨info.code.toInt, info.message, .null⟩ := rfl

/-- The envelope reading gives code, status and message. -/
theorem decodeEnvelope_error (failing : info.code ≠ .success) (parseError : String) :
    decodeEnvelope (responseError write info) parseError =
      .error ⟨info.code.toInt, getHttpStatus info.code, textBytes info.message⟩ := by
  rw [decodeEnvelope, unmarshalEnvelope_error]
  exact if_pos (toInt_ne_zero failing)

/-- The code of an error without a message is lost. -/
theorem readBodyError_error_iff (failing : info.code ≠ .success) :
    readBodyError (responseError write info) =
      ⟨info.code.toInt, getHttpStatus info.code, textBytes info.message⟩ ↔ info.message ≠ "" := by
  rw [readBodyError, unmarshalEnvelope_error]
  dsimp only
  by_cases empty : info.message = ""
  · rw [if_neg (not_not.mpr empty)]
    apply iff_of_false
    · intro same
      have code : (0 : Int) = info.code.toInt := congrArg APIError.code same
      exact toInt_ne_zero failing code.symm
    · exact not_not.mpr empty
  · rw [if_pos empty]
    exact iff_of_true rfl empty

/-- The error of a response that has no member with the name error. -/
def unnamedError : ApiError :=
  ⟨-99, "network", "NetworkError", "网络错误", true, "retry_with_backoff"⟩

theorem handlerError_error (failing : info.code ≠ .success) :
    handlerError (responseError write info) = .error unnamedError := by
  have status : errorFromNetworkError (statusCodeFromHttp (getHttpStatus info.code)) = unnamedError := by
    generalize info.code = code at failing
    cases code <;> first | exact absurd rfl failing | rfl
  rw [← status]
  rfl

theorem unnamedError_code : unnamedError.code ≠ (info.code.toInt : Int) := by
  have sign : unnamedError.code < 0 := by decide
  omega

/-- An upload handler sees the same error for every body. -/
theorem handleUploadError_error (failing : info.code ≠ .success) :
    handleUploadError (responseError write info) = .retryOrFail unnamedError := by
  rw [handleUploadError, handlerError_error failing]

/-- A download handler sees the same error for every body. -/
theorem handleTransferError_error (failing : info.code ≠ .success) :
    handleTransferError (responseError write info) = unnamedError := by
  rw [handleTransferError, handlerError_error failing]

/-- The handlers of the desktop client never agree with an error. -/
theorem envelope_not_agrees (failing : info.code ≠ .success) : ¬ EnvelopeAgrees write info := by
  intro agrees
  have read : unnamedError = errorFromJson (errorBody info) :=
    (handleTransferError_error failing).symm.trans agrees.metadata
  exact unnamedError_code (congrArg ApiError.code read)

theorem status_rate_limit (code : ErrorCode) : getHttpStatus code = 429 ↔ code = .tooManyRequests := by
  cases code <;> decide

/-- Every error but a rate limit, which the status tells, is tried again three times. -/
theorem retryOrFailUpload_error (retryCount : Nat) (now : Int) :
    retryOrFailUpload unnamedError (some (responseError write info)) retryCount now =
      .failed unnamedError ↔ info.code ≠ .tooManyRequests ∧ maxRetryCount ≤ retryCount := by
  have limited : ((some (responseError write info)).any (fun reply => reply.status = 429) ||
      unnamedError.code = 10005) = decide (info.code = .tooManyRequests) := by
    have other : decide (unnamedError.code = 10005) = false := by decide
    rw [other, Bool.or_false]
    exact decide_eq_decide.mpr (status_rate_limit info.code)
  have retryable : unnamedError.retryable = true := rfl
  simp only [retryOrFailUpload, limited, retryable, Bool.true_or, Bool.true_and]
  by_cases rate : info.code = .tooManyRequests
  · simp [rate]
  · simp [rate]

/-- The web client and the envelope reading of the terminal give every code and message, the reading of
failed bodies those with a message, and the handlers of the desktop none. -/
theorem error_envelope_readings (write : Json → String) (info : ErrorInfo)
    (failing : info.code ≠ .success) :
    (∀ blob statusText, rejectApiError (responseError write info) blob statusText =
      ⟨.number info.code.toInt, .string ((errorMessageMap info.code.toInt).getD info.message)⟩) ∧
    (∀ parseError, decodeEnvelope (responseError write info) parseError =
      .error ⟨info.code.toInt, getHttpStatus info.code, textBytes info.message⟩) ∧
    (readBodyError (responseError write info) =
      ⟨info.code.toInt, getHttpStatus info.code, textBytes info.message⟩ ↔ info.message ≠ "") ∧
    (∀ handle ∈ [handleInitError, handleChunkError, handleCompleteError],
      handle (responseError write info) = .retryOrFail unnamedError) ∧
    (∀ handle ∈ [handleMetadataError, handleDownloadError],
      handle (responseError write info) = unnamedError) ∧
    (∀ retryCount now,
      retryOrFailUpload unnamedError (some (responseError write info)) retryCount now =
        .failed unnamedError ↔ info.code ≠ .tooManyRequests ∧ maxRetryCount ≤ retryCount) ∧
    ¬ EnvelopeAgrees write info := by
  refine ⟨rejectApiError_error failing, decodeEnvelope_error failing, readBodyError_error_iff failing, ?_, ?_,
    retryOrFailUpload_error, envelope_not_agrees failing⟩
  · intro handle listed
    simp only [List.mem_cons, List.not_mem_nil, or_false] at listed
    rcases listed with rfl | rfl | rfl
    · exact handleUploadError_error failing
    · exact handleUploadError_error failing
    · exact handleUploadError_error failing
  · intro handle listed
    simp only [List.mem_cons, List.not_mem_nil, or_false] at listed
    rcases listed with rfl | rfl
    · exact handleTransferError_error failing
    · exact handleTransferError_error failing

/-- An exceeded quota, as each client reads it. -/
theorem error_envelope_readings_quota :
    readBodyError (responseError (fun _ => "") (.ofCode .storageQuotaExceeded)) =
      ⟨50004, 400, textBytes "Insufficient storage space"⟩ := by
  obtain ⟨-, -, body, -⟩ := error_envelope_readings (fun _ => "") (.ofCode .storageQuotaExceeded) (by decide)
  exact body.mpr (by decide)

/-- The error of an expired upload task is taken for a network failure that is tried again. -/
theorem expired_task_retried :
    handleChunkError (responseError (fun _ => "") (.ofCode .uploadTaskNotFound)) =
        .retryOrFail unnamedError ∧
      ¬ ∀ write info, info.code ≠ .success → EnvelopeAgrees write info := by
  have failing : (ErrorInfo.ofCode .uploadTaskNotFound).code ≠ .success := by decide
  exact ⟨handleUploadError_error failing, fun all => envelope_not_agrees failing (all (fun _ => "") _ failing)⟩

end DiskServer.Clients
