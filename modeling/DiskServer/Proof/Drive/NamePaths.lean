import DiskServer.Library.Separator
import DiskServer.Proof.Drive.TreeInsert
import DiskServer.Proof.Utils.NameValidation

namespace DiskServer.Drive

open Library Utils

def textBytes (text : String) : List UInt8 := text.toUTF8.data.toList

theorem textBytes_eq (text : String) :
    textBytes text = text.toList.flatMap String.utf8EncodeChar := by
  unfold textBytes
  rw [String.toUTF8_eq_toByteArray, ← String.utf8Encode_toList]
  exact List.toList_data_toByteArray

/-- Every accepted list of bytes is a text. -/
theorem exists_textBytes {name : List UInt8} (accepted : AcceptedName name) :
    ∃ text, textBytes text = name := by
  obtain ⟨⟨characters, encoded, -⟩, -⟩ := accepted.clean
  refine ⟨String.ofList characters, ?_⟩
  rw [textBytes_eq, String.toList_ofList, encoded]

theorem no_slash {name : String} (accepted : AcceptedName (textBytes name)) : '/' ∉ name.toList := by
  intro inside
  apply accepted.clean.2
  rw [textBytes_eq]
  exact List.mem_flatMap.mpr ⟨'/', inside, by decide⟩

/-- The path of the last folder of a chain. -/
def folderPath (names : List String) : String := names.foldl buildFolderPath "/"

/-- The path of a file below a chain of folders. -/
def filePath (names : List String) (name : String) : String := buildFilePath (folderPath names) name

/-- Every name of a folder stands between two slashes. -/
def chainText (names : List String) : List Char := names.flatMap fun name => name.toList ++ ['/']

theorem foldl_buildFolderPath (start : String) (names : List String) :
    (names.foldl buildFolderPath start).toList = start.toList ++ chainText names := by
  induction names generalizing start with
  | nil => exact (List.append_nil _).symm
  | cons name rest ih =>
      rw [List.foldl_cons, ih, buildFolderPath_eq]
      simp [chainText]

theorem folderPath_toList (names : List String) : (folderPath names).toList = '/' :: chainText names :=
  foldl_buildFolderPath "/" names

theorem filePath_toList (names : List String) (name : String) :
    (filePath names name).toList = '/' :: (chainText names ++ name.toList) := by
  unfold filePath
  rw [buildFilePath_eq, String.toList_append, folderPath_toList, List.cons_append]

/-- The last part of a chain has no slash, so the slashes of the chain count its folders. -/
theorem chainText_append_injective {one two : List String} {first second : List Char}
    (left : ∀ name ∈ one, '/' ∉ name.toList) (right : ∀ name ∈ two, '/' ∉ name.toList)
    (absent : '/' ∉ first) (missing : '/' ∉ second)
    (same : chainText one ++ first = chainText two ++ second) : one = two ∧ first = second := by
  induction one generalizing two with
  | nil =>
      cases two with
      | nil => exact ⟨rfl, same⟩
      | cons name rest =>
          have text : first = name.toList ++ ('/' :: (chainText rest ++ second)) := by
            simpa [chainText] using same
          rw [text] at absent
          exact absurd (List.mem_append_right _ List.mem_cons_self) absent
  | cons name rest ih =>
      cases two with
      | nil =>
          have text : name.toList ++ ('/' :: (chainText rest ++ first)) = second := by
            simpa [chainText] using same
          rw [← text] at missing
          exact absurd (List.mem_append_right _ List.mem_cons_self) missing
      | cons other others =>
          have text : name.toList ++ '/' :: (chainText rest ++ first) =
              other.toList ++ '/' :: (chainText others ++ second) := by
            simpa [chainText] using same
          obtain ⟨heads, tails⟩ := append_separator_left (left name List.mem_cons_self)
            (right other List.mem_cons_self) text
          obtain ⟨rests, lasts⟩ := ih (fun later present => left later (List.mem_cons_of_mem name present))
            (fun later present => right later (List.mem_cons_of_mem other present)) tails
          exact ⟨by rw [String.toList_inj.mp heads, rests], lasts⟩

section Accepted

variable {one two : List String} {first second : String}

/-- Accepted names are read off the path of a folder. -/
theorem folderPath_injective (left : ∀ name ∈ one, AcceptedName (textBytes name))
    (right : ∀ name ∈ two, AcceptedName (textBytes name)) (same : folderPath one = folderPath two) :
    one = two := by
  have texts := congrArg String.toList same
  rw [folderPath_toList, folderPath_toList] at texts
  have chains : chainText one ++ [] = chainText two ++ [] := by
    rw [List.append_nil, List.append_nil]
    exact (List.cons.inj texts).2
  exact (chainText_append_injective (fun name present => no_slash (left name present))
    (fun name present => no_slash (right name present)) List.not_mem_nil List.not_mem_nil chains).1

/-- Accepted names are read off the path of a file. -/
theorem filePath_injective (left : ∀ name ∈ first :: one, AcceptedName (textBytes name))
    (right : ∀ name ∈ second :: two, AcceptedName (textBytes name))
    (same : filePath one first = filePath two second) : one = two ∧ first = second := by
  have texts := congrArg String.toList same
  rw [filePath_toList, filePath_toList] at texts
  obtain ⟨chains, names⟩ := chainText_append_injective
    (fun name present => no_slash (left name (List.mem_cons_of_mem _ present)))
    (fun name present => no_slash (right name (List.mem_cons_of_mem _ present)))
    (no_slash (left first List.mem_cons_self)) (no_slash (right second List.mem_cons_self))
    (List.cons.inj texts).2
  exact ⟨chains, String.toList_inj.mp names⟩

end Accepted

/-- What the checks of a name decide, and what they are good for in a path. -/
structure NameChecks : Prop where
  answers : ∀ value, isValidUtf8WithoutControlChars value ≠ none
  exact : ∀ value, isValidUtf8WithoutControlChars value = some true ↔ IsCleanUtf8 value
  accepted : ∀ name, AcceptedName name → IsCleanUtf8 name ∧ 0x2F ∉ name
  texts : ∀ name, AcceptedName name → ∃ text, textBytes text = name
  folderPaths : ∀ one two : List String, (∀ name ∈ one, AcceptedName (textBytes name)) →
    (∀ name ∈ two, AcceptedName (textBytes name)) → folderPath one = folderPath two → one = two
  filePaths : ∀ (one two : List String) (first second : String),
    (∀ name ∈ first :: one, AcceptedName (textBytes name)) →
    (∀ name ∈ second :: two, AcceptedName (textBytes name)) →
    filePath one first = filePath two second → one = two ∧ first = second

/-- The scan takes exactly the clean texts. The names that the validators accept are clean texts without a
slash, and the paths built from them are injective. -/
theorem name_checks_exact : NameChecks where
  answers := isValidUtf8WithoutControlChars_answers
  exact := isValidUtf8WithoutControlChars_iff
  accepted _ accepted := accepted.clean
  texts _ accepted := exists_textBytes accepted
  folderPaths _ _ left right same := folderPath_injective left right same
  filePaths _ _ _ _ left right same := filePath_injective left right same

end DiskServer.Drive
