import DiskServer.Construction.Auth.AuthService
import DiskServer.Proof.Filters.RouteFilters
import Mathlib.Data.List.TakeWhile

namespace DiskServer.Auth

open Library

section Claims

theorem splitSign_of_digit {list : List Char} (digits : ∀ char ∈ list, char.isDigit = true) :
    splitSign list = (false, list) := by
  cases list with
  | nil => rfl
  | cons head tail =>
      have digit := digits head List.mem_cons_self
      unfold splitSign
      split
      · next minus => cases (List.cons.inj minus).1 ▸ digit
      · next plus => cases (List.cons.inj plus).1 ▸ digit
      · rfl

theorem not_isDigit_of_isSpace {char : Char} (blank : isSpace char = true) : char.isDigit = false := by
  have listed := List.contains_iff_mem.mp blank
  simp only [List.mem_cons, List.not_mem_nil, or_false] at listed
  rcases listed with rfl | rfl | rfl | rfl | rfl | rfl
  · rfl
  · rfl
  · rfl
  · rfl
  · rfl
  · rfl

/-- A decimal number is read back from its text. -/
theorem stoull_toString {number : Nat} (small : number < 18446744073709551616) :
    ∃ length, stoull (toString number) = some (number, length) := by
  have text : (toString number).toList = Nat.toDigits 10 number := by
    rw [Nat.toString_eq_repr, Nat.toList_repr]
  have digits : ∀ char ∈ Nat.toDigits 10 number, char.isDigit = true :=
    fun char inside => Nat.isDigit_of_mem_toDigits (by decide) (by decide) inside
  have value : Nat.ofDigitChars 10 (Nat.toDigits 10 number) 0 = number := by simp
  have first : (Nat.toDigits 10 number).dropWhile isSpace = Nat.toDigits 10 number := by
    generalize Nat.toDigits 10 number = list at digits
    cases list with
    | nil => rfl
    | cons head tail =>
        apply List.dropWhile_cons_of_neg
        intro blank
        have digit := digits head List.mem_cons_self
        rw [not_isDigit_of_isSpace blank] at digit
        cases digit
  have all : (Nat.toDigits 10 number).takeWhile Char.isDigit = Nat.toDigits 10 number :=
    List.takeWhile_eq_self_iff.mpr digits
  have filled : Nat.toDigits 10 number ≠ [] := Nat.toDigits_ne_nil
  simp only [stoull, text, first, splitSign_of_digit digits, all, value, filled, false_or,
    Nat.not_le.mpr small, if_false]
  exact ⟨_, rfl⟩

theorem toInt32_toInt (value : Int16) : toInt32 value.toInt = value.toInt := by
  have low := value.le_toInt
  have high := value.toInt_lt
  exact Int.bmod_eq_of_le (by omega) (by omega)

end Claims

section Issue

/-- An account may be used when it is not disabled and no lock is in force. -/
def UserRow.Accessible (user : UserRow) (now : Nat) : Prop :=
  user.status ≠ accountStatusDisabled ∧
    ¬ (user.status = accountStatusLocked ∧ user.lockedUntil = none) ∧
    ∀ deadline, user.lockedUntil = some deadline → deadline ≤ now

variable {state : AuthState}

theorem not_accountLocked {user : UserRow} {now : Nat} (free : user.accountLocked now = false) :
    ¬ (user.status = accountStatusLocked ∧ user.lockedUntil = none) ∧
      ∀ deadline, user.lockedUntil = some deadline → deadline ≤ now := by
  rw [UserRow.accountLocked, Bool.or_eq_false_iff] at free
  obtain ⟨manual, temporary⟩ := free
  constructor
  · rintro ⟨status, deadline⟩
    rw [status, deadline] at manual
    cases manual
  · intro deadline known
    rw [known] at temporary
    exact Nat.not_lt.mp (of_decide_eq_false temporary)

theorem validateAccountAccess_ok {id : UInt64} (passed : state.validateAccountAccess id = .ok ()) :
    ∃ user, state.findOne id = some user ∧ user.Accessible state.now := by
  cases found : state.findOne id with
  | none =>
      rw [AuthState.validateAccountAccess, found] at passed
      cases passed
  | some user =>
      simp only [AuthState.validateAccountAccess, found] at passed
      split at passed
      · cases passed
      · next enabled =>
          split at passed
          · cases passed
          · next free => exact ⟨user, rfl, enabled, not_accountLocked (Bool.not_eq_true _ ▸ free)⟩

/-- The rows have different keys, so a row is the only one with its key. -/
theorem findOne_of_mem (keyed : (state.users.map UserRow.id).Nodup) {user : UserRow}
    (present : user ∈ state.users) : state.findOne user.id = some user := by
  unfold AuthState.findOne
  generalize state.users = users at keyed present
  induction users with
  | nil => cases present
  | cons head tail continues =>
      rw [List.map_cons, List.nodup_cons] at keyed
      rcases List.mem_cons.mp present with rfl | later
      · exact List.find?_cons_of_pos (beq_self_eq_true _)
      · have other : head.id ≠ user.id := fun same => keyed.1 (same ▸ List.mem_map_of_mem later)
        rw [List.find?_cons_of_neg (by simpa using other)]
        exact continues keyed.2 later

/-- The token was handed out by a call in this state, to a user whose account could be used. -/
def IssuedIn (state : AuthState) (token : AccessToken) : Prop :=
  ∃ user accessJti refreshJti,
    token = (generateTokens state.now user accountStatusActive accessJti refreshJti).1 ∧
      state.findOne user.id = some user ∧ user.Accessible state.now

/-- A call keeps the tokens that were handed out and may hand out one more. -/
structure Continues (state next : AuthState) : Prop where
  issued : ∀ token ∈ next.issuedAccess, token ∈ state.issuedAccess ∨ IssuedIn state token
  keys : next.users.map UserRow.id = state.users.map UserRow.id

theorem continues_refl : Continues state state := ⟨fun _ kept => .inl kept, rfl⟩

theorem updateUser_keys {id : UInt64} {change : UserRow → UserRow} (same : ∀ user, (change user).id = user.id) :
    (state.updateUser id change).users.map UserRow.id = state.users.map UserRow.id := by
  rw [AuthState.updateUser, List.map_map]
  apply List.map_congr_left
  intro user _
  change (if user.id = id then change user else user).id = user.id
  split
  · exact same user
  · rfl

theorem continues_updateUser {id : UInt64} {change : UserRow → UserRow}
    (same : ∀ user, (change user).id = user.id) : Continues state (state.updateUser id change) :=
  ⟨fun _ kept => .inl kept, updateUser_keys same⟩

theorem incrementLoginAttempts_continues {id : UInt64} :
    Continues state (state.incrementLoginAttempts id) := by
  apply continues_updateUser
  intro user
  dsimp only
  split
  · rfl
  · rfl

theorem updateLoginInfo_ok {id : UInt64} {next : AuthState} (updated : state.updateLoginInfo id = .ok next) :
    next.issuedAccess = state.issuedAccess ∧ next.users.map UserRow.id = state.users.map UserRow.id := by
  rw [AuthState.updateLoginInfo] at updated
  split at updated
  · obtain rfl := Except.ok.inj updated
    exact ⟨rfl, updateUser_keys fun _ => rfl⟩
  · split at updated
    · cases updated
    · cases updated

theorem login_continues (keyed : (state.users.map UserRow.id).Nodup) (account : String)
    (answers : LoginAnswers) (accessJti refreshJti : String) :
    Continues state (state.login account answers accessJti refreshJti).1 := by
  rw [AuthState.login]
  split
  · exact continues_refl
  split
  · exact continues_refl
  next user found =>
  split
  · exact continues_refl
  next allowed =>
  split
  · exact incrementLoginAttempts_continues
  split
  · exact continues_refl
  next active updated =>
  obtain ⟨issued, keys⟩ := updateLoginInfo_ok updated
  obtain ⟨row, only, accessible⟩ := validateAccountAccess_ok allowed
  have own := findOne_of_mem keyed (List.mem_of_find?_eq_some found)
  obtain rfl : user = row := Option.some.inj (own.symm.trans only)
  constructor
  · intro token kept
    rcases List.mem_cons.mp kept with rfl | older
    · exact .inr ⟨user, accessJti, refreshJti, rfl, own, accessible⟩
    · left
      rw [← issued]
      split at older
      · exact older
      · exact older
  · rw [← keys]
    dsimp only [AuthState.handOut]
    split
    · rfl
    · rfl

/-- A refresh changes nothing or hands out a pair to a user whose account could be used. -/
theorem refreshTokens_cases (jti : String) (available : Bool) (accessJti refreshJti : String) :
    (∃ code, state.refreshTokens jti available accessJti refreshJti = (state, .error code)) ∨
      ∃ user, state.findOne user.id = some user ∧ user.Accessible state.now ∧
        state.refreshTokens jti available accessJti refreshJti =
          ((state.storeRefreshToken user.id refreshJti).handOut
              (generateTokens state.now user accountStatusActive accessJti refreshJti),
            .ok (generateTokens state.now user accountStatusActive accessJti refreshJti)) := by
  rw [AuthState.refreshTokens]
  split
  · exact .inl ⟨_, rfl⟩
  next token verified =>
  split
  · exact .inl ⟨_, rfl⟩
  next user found =>
  split
  · exact .inl ⟨_, rfl⟩
  next allowed =>
  dsimp only
  split
  · exact .inl ⟨_, rfl⟩
  split
  · exact .inl ⟨_, rfl⟩
  · obtain ⟨row, only, accessible⟩ := validateAccountAccess_ok allowed
    obtain rfl : user = row := Option.some.inj (found.symm.trans only)
    have key : user.id = token.userId := by simpa using List.find?_some found
    rw [← key] at found
    exact .inr ⟨user, found, accessible, rfl⟩

theorem refreshTokens_continues (jti : String) (available : Bool) (accessJti refreshJti : String) :
    Continues state (state.refreshTokens jti available accessJti refreshJti).1 := by
  rcases refreshTokens_cases jti available accessJti refreshJti with ⟨code, refused⟩ |
    ⟨user, found, accessible, issued⟩
  · rw [refused]
    exact continues_refl
  · rw [issued]
    refine ⟨?_, rfl⟩
    intro token kept
    rcases List.mem_cons.mp kept with rfl | older
    · exact .inr ⟨user, accessJti, refreshJti, rfl, found, accessible⟩
    · exact .inl older

theorem perform_continues (keyed : (state.users.map UserRow.id).Nodup) (action : AuthAction) :
    Continues state (state.perform action) := by
  cases action with
  | tick seconds => exact ⟨fun _ kept => .inl kept, rfl⟩
  | login account answers accessJti refreshJti =>
      exact login_continues keyed account answers accessJti refreshJti
  | refresh jti available accessJti refreshJti =>
      exact refreshTokens_continues jti available accessJti refreshJti
  | logout id accessJti deleted => exact ⟨fun _ kept => .inl kept, rfl⟩
  | changeUserStatus operatorId targetId status =>
      dsimp only [AuthState.perform, AuthState.changeUserStatus]
      split
      · exact continues_refl
      split
      · exact continues_refl
      · exact continues_updateUser fun _ => rfl
  | changeUserRole operatorId targetId role =>
      dsimp only [AuthState.perform, AuthState.changeUserRole]
      split
      · exact continues_refl
      split
      · exact continues_refl
      split
      · exact continues_refl
      · exact continues_updateUser fun _ => rfl
  | softDeleteUser operatorId targetId =>
      dsimp only [AuthState.perform, AuthState.softDeleteUser]
      split
      · exact continues_refl
      split
      · exact continues_refl
      · exact continues_updateUser fun _ => rfl

end Issue

section Runs

/-- The call in this state hands out the token, which was not there before. -/
def HandsOut (state : AuthState) (action : AuthAction) (token : AccessToken) : Prop :=
  token ∉ state.issuedAccess ∧ token ∈ (state.perform action).issuedAccess

/-- Every token that was handed out goes back to a call in an earlier state of the run. -/
structure AuthInv (state : AuthState) : Prop where
  reachable : authSystem.Reachable state
  keyed : (state.users.map UserRow.id).Nodup
  issued : ∀ token ∈ state.issuedAccess, ∃ earlier action, authSystem.Reachable earlier ∧
    authSystem.Reaches (earlier.perform action) state ∧ HandsOut earlier action token ∧
    IssuedIn earlier token

/-- A call keeps what is known of the older tokens and is the origin of a new one. -/
theorem authInv_next {state : AuthState} (inv : AuthInv state) (action : AuthAction) :
    AuthInv (state.perform action) := by
  have moved : authSystem.step state action = some (state.perform action) := rfl
  have step := perform_continues inv.keyed action
  constructor
  · exact inv.reachable.next trivial moved
  · rw [step.keys]
    exact inv.keyed
  · intro token kept
    by_cases older : token ∈ state.issuedAccess
    · obtain ⟨earlier, origin, before, path, issued⟩ := inv.issued token older
      exact ⟨earlier, origin, before, path.tail ⟨action, trivial, moved⟩, issued⟩
    · have here := (step.issued token kept).resolve_left older
      exact ⟨state, action, inv.reachable, .refl, ⟨older, kept⟩, here⟩

/-- Every reachable state satisfies the invariant. -/
theorem authInv {state : AuthState} (reachable : authSystem.Reachable state) : AuthInv state := by
  apply reachable.invariant AuthInv
  · intro start initial
    constructor
    · exact ⟨start, initial, .refl⟩
    · exact initial.2
    · intro token kept
      rw [initial.1] at kept
      cases kept
  · intro state action next inv _ moved
    obtain rfl := Option.some.inj moved
    exact authInv_next inv action

theorem decodeAccess_payload {state : AuthState} {text : String} {payload : AccessPayload}
    (decoded : state.decodeAccess text = .payload payload) :
    ∃ token ∈ state.issuedAccess, token.payload = payload ∧ payload.jti = text ∧
      state.now ≤ token.expiresAt := by
  rw [AuthState.decodeAccess] at decoded
  split at decoded
  · cases decoded
  next token found =>
  split at decoded
  · cases decoded
  · next unexpired =>
      obtain rfl := Decoded.payload.inj decoded
      have jti : token.payload.jti = text := by simpa using List.find?_some found
      exact ⟨token, List.mem_of_find?_eq_some found, rfl, jti, Nat.not_lt.mp unexpired⟩

/-- The claims of a verified token are those that the server signed. -/
theorem verifyAccessToken_issued {state : AuthState} {text : String} {claims : AccessTokenClaims}
    (verified : verifyAccessToken state.decodeAccess text = .ok claims) :
    ∃ token ∈ state.issuedAccess, claims.jti = text ∧ token.payload.jti = text ∧
      state.now ≤ token.expiresAt ∧
      (stoull token.payload.subject).map Prod.fst = some claims.userId ∧
      claims.role = (token.payload.role.map toInt32).getD 0 := by
  rw [verifyAccessToken] at verified
  split at verified
  · cases verified
  · cases verified
  · cases verified
  next payload decoded =>
  obtain ⟨token, issued, rfl, jti, unexpired⟩ := decodeAccess_payload decoded
  split at verified
  · cases verified
  split at verified
  · cases verified
  next userId length subject =>
  obtain rfl := Except.ok.inj verified
  exact ⟨token, issued, jti, jti, unexpired, by rw [subject]; rfl, rfl⟩

/-- An admitted request has an unexpired, unrevoked token that a login or refresh handed out when the row
of its user was that of an administrator whose account could be used. -/
def AdmissionGoesBack (state : AuthState) (route : Filters.Route) (path : List Char) : Prop :=
  ∀ base authorization shareToken clientIp admitted,
    (route.serve (state.environment base) ⟨path, authorization, shareToken, clientIp⟩).verdict =
      .ok admitted →
    Filters.bearerToken authorization ∉ state.accessBlacklist ∧
      ∃ token ∈ state.issuedAccess, token.payload.jti = Filters.bearerToken authorization ∧
        state.now ≤ token.expiresAt ∧ admitted.userId = some token.userId.toNat ∧
        ∃ earlier action user, authSystem.Reachable earlier ∧
          authSystem.Reaches (earlier.perform action) state ∧ HandsOut earlier action token ∧
          token.expiresAt = earlier.now + accessTokenExpireSeconds ∧
          earlier.findOne token.userId = some user ∧ user.role = 1 ∧ user.Accessible earlier.now

/-- The invariant makes every admission go back to a login or refresh. -/
theorem admissionGoesBack {state : AuthState} (inv : AuthInv state) {route : Filters.Route}
    (listed : route ∈ Filters.routes) (administrators : route.handler.protection = .administrators)
    {path : List Char} (dispatched : route.dispatches path = true)
    (spelled : route.handler.start.toList <+: path) : AdmissionGoesBack state route path := by
  intro base authorization shareToken clientIp admitted accepted
  obtain ⟨start, filters⟩ : route.handler.start = "/api/admin/" ∧
      route.filters = [.adminAuth, .adminRateLimit] := by
    rcases Filters.route_kinds route listed with ⟨-, start, filters⟩ | ⟨kind, -⟩ | ⟨kind, -⟩ | ⟨kind, -⟩ | ⟨kind, -⟩
    · exact ⟨start, filters⟩
    · cases kind.symm.trans administrators
    · cases kind.symm.trans administrators
    · cases kind.symm.trans administrators
    · cases kind.symm.trans administrators
  rw [start] at spelled
  obtain ⟨claims, verified, valid, same, role, -⟩ := Filters.administrators_ok listed dispatched filters start
    (Filters.startsWith_iff.mpr spelled) accepted
  obtain ⟨token, issued, jti, known, unexpired, subject, signedRole⟩ := verifyAccessToken_issued verified
  obtain ⟨earlier, action, before, pathTo, handed, user, accessJti, refreshJti, rfl, found, accessible⟩ :=
    inv.issued token issued
  obtain ⟨length, number⟩ := stoull_toString user.id.toNat_lt
  have userId : claims.userId = user.id.toNat := by
    have read : (stoull (toString user.id.toNat)).map Prod.fst = some claims.userId := subject
    rw [number] at read
    exact (Option.some.inj read).symm
  have administrator : user.role = 1 := by
    have signed : claims.role = toInt32 user.role.toInt := signedRole
    rw [role, toInt32_toInt] at signed
    exact Int16.toInt_inj.mp signed.symm
  constructor
  · have listedNot : Except.ok (decide (claims.jti ∈ state.accessBlacklist)) = Except.ok (ε := ErrorCode) false :=
      valid
    rw [← jti]
    exact of_decide_eq_false (Except.ok.inj listedNot)
  · exact ⟨_, issued, known, unexpired, by rw [same, userId]; rfl, earlier, action, user, before, pathTo,
      handed, rfl, found, administrator, accessible⟩

/-- The filters go by the claims of a token from a login or refresh on to its end, and a refresh hands out
tokens only to a user whose account may be used. -/
theorem privileges_follow_tokens {state : AuthState} (reachable : authSystem.Reachable state) :
    (∀ route ∈ Filters.routes, route.handler.protection = .administrators → ∀ path,
      route.dispatches path = true → route.handler.start.toList <+: path →
      AdmissionGoesBack state route path) ∧
    (∀ jti available accessJti refreshJti pair,
      (state.refreshTokens jti available accessJti refreshJti).2 = .ok pair →
      ∃ user, state.findOne user.id = some user ∧ user.Accessible state.now ∧
        pair = generateTokens state.now user accountStatusActive accessJti refreshJti) := by
  constructor
  · intro route listed administrators path dispatched spelled
    exact admissionGoesBack (authInv reachable) listed administrators dispatched spelled
  · intro jti available accessJti refreshJti pair renewed
    rcases refreshTokens_cases jti available accessJti refreshJti with ⟨code, refused⟩ |
      ⟨user, found, accessible, issued⟩
    · rw [refused] at renewed
      cases renewed
    · rw [issued] at renewed
      exact ⟨user, found, accessible, (Except.ok.inj renewed).symm⟩

def twoAdministrators : AuthState :=
  { now := 0
    users :=
      [⟨1, "root", "root@disk", accountStatusActive, 1, 0, none⟩,
        ⟨2, "admin", "admin@disk", accountStatusActive, 1, 0, none⟩]
    issuedAccess := []
    issuedRefresh := []
    accessBlacklist := []
    storedRefresh := fun _ => none }

/-- The second administrator logs in. -/
def signedIn : AuthState := twoAdministrators.perform (.login "admin" ⟨some 1, true, true⟩ "a" "r")

/-- The first administrator disables the account of the second one. -/
def signedInDisabled : AuthState := signedIn.perform (.changeUserStatus 1 2 accountStatusDisabled)

theorem reachable_signedIn : authSystem.Reachable signedIn := by
  have ran : authSystem.run twoAdministrators [.login "admin" ⟨some 1, true, true⟩ "a" "r"] =
      some signedIn := rfl
  exact authSystem.reachable_of_run ⟨rfl, by decide⟩ ran

/-- A signed-in administrator is admitted. -/
theorem privileges_follow_tokens_signedIn :
    AdmissionGoesBack signedIn Filters.listUsersRoute "/api/admin/users".toList := by
  obtain ⟨admissions, -⟩ := privileges_follow_tokens reachable_signedIn
  exact admissions Filters.listUsersRoute (by decide) rfl "/api/admin/users".toList (by decide) (by decide)

/-- A disabled administrator is admitted until the token runs out. -/
theorem disabled_administrator_admitted :
    ∃ state, authSystem.Reachable state ∧
      (∃ admitted, (Filters.listUsersRoute.serve (state.environment Filters.viewer)
        ⟨"/api/admin/users".toList, "Bearer a", "", ""⟩).verdict = .ok admitted ∧
          admitted.userId = some 2) ∧
      (state.findOne 2).map UserRow.status = some accountStatusDisabled := by
  have moved : authSystem.step signedIn (.changeUserStatus 1 2 accountStatusDisabled) =
      some signedInDisabled := rfl
  refine ⟨signedInDisabled, reachable_signedIn.next trivial moved, ?_, by decide +kernel⟩
  have answer : (match (Filters.listUsersRoute.serve (signedInDisabled.environment Filters.viewer)
      ⟨"/api/admin/users".toList, "Bearer a", "", ""⟩).verdict with
    | .ok admitted => admitted.userId
    | .error _ => none) = some 2 := by decide +kernel
  split at answer
  · next admitted verdict => exact ⟨admitted, verdict, answer⟩
  · cases answer

end Runs

end DiskServer.Auth
