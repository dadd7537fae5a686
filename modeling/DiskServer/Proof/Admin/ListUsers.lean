import DiskServer.Construction.Admin.ListUsers
import DiskServer.Library.Separator

namespace DiskServer.Admin

open Library Utils

section Templates

def contains (value : List Char) : List Char := '%' :: value ++ ['%']

/-- The conditions that the filters of a request stand for. -/
def filterConditions (request : ListUsersRequest) : List Condition :=
  (request.username.map fun value => Condition.username (contains value)).toList ++
    ((request.email.map fun value => Condition.email (contains value)).toList ++
      ((request.status.map fun value => Condition.status (toString value).toList).toList ++
        (request.role.map fun value => Condition.role (toString value).toList).toList))

/-- The tokens of all conditions of a request. -/
def conditionTokens (request : ListUsersRequest) : List SqlToken :=
  (filterConditions request).flatMap Condition.tokens

def countTemplate (request : ListUsersRequest) : List SqlToken := countHead ++ conditionTokens request

def listTemplate (request : ListUsersRequest) : List SqlToken :=
  listHead ++ (conditionTokens request ++ listTail)

/-- The filters that a user has to pass. -/
def matchesFilters (request : ListUsersRequest) (user : UserRecord) : Bool :=
  request.username.all (fun value => Drive.sqlLike (contains value) user.username.toList) &&
    (request.email.all (fun value => Drive.sqlLike (contains value) user.email.toList) &&
      (request.status.all (fun value => user.status = value) &&
        request.role.all (fun value => user.role = value)))

/-- Both statements lex as their templates, and the response lists the users that pass the filters. -/
structure FiltersContained (timestamp : Int → String) (other : OtherStatements)
    (request : ListUsersRequest) : Prop where
  count : lexSql (cString (countSql request)) = some (countTemplate request)
  list : lexSql (cString (listSql request)) = some (listTemplate request)
  rows : ∀ users, listUsers timestamp other request users =
    .ok (buildUserList timestamp request (users.filter (matchesFilters request)).length
      (((newestFirst (users.filter (matchesFilters request))).drop request.offset).take
        request.pageSize.toNat))

end Templates

section Segments

def countStart : List Char := "SELECT COUNT(*) AS total FROM users".toList ++ " WHERE 1=1".toList

def listStart : List Char :=
  ("SELECT id, username, email, nickname, avatar, " ++
    "role, status, storage_quota, storage_used, storage_reserved, " ++
    "created_at, last_login_at " ++ "FROM users").toList ++ " WHERE 1=1".toList

def usernameOpening : List Char := " AND username LIKE '%".toList

def emailOpening : List Char := " AND email LIKE '%".toList

variable {state : LexState} {tokens : List SqlToken} {value : List Char}

theorem usernameClause_opens (settled : Settled tokens state) :
    state.run usernameOpening =
      ⟨word "LIKE" :: word "username" :: word "AND" :: tokens, .literal false ['%']⟩ :=
  (settled.run (by decide) "ND username LIKE '%".toList).trans rfl

theorem emailClause_opens (settled : Settled tokens state) :
    state.run emailOpening =
      ⟨word "LIKE" :: word "email" :: word "AND" :: tokens, .literal false ['%']⟩ :=
  (settled.run (by decide) "ND email LIKE '%".toList).trans rfl

theorem countHead_settled : Settled countHead.reverse (LexState.run ⟨[], .between⟩ countStart) := by
  have lexed : LexState.run ⟨[], .between⟩ countStart = ⟨countHead.reverse.tail, .word ['1']⟩ := by
    decide +kernel
  rw [lexed]
  exact settled_word

theorem listHead_settled : Settled listHead.reverse (LexState.run ⟨[], .between⟩ listStart) := by
  have lexed : LexState.run ⟨[], .between⟩ listStart = ⟨listHead.reverse.tail, .word ['1']⟩ := by
    decide +kernel
  rw [lexed]
  exact settled_word

theorem listTail_finishes (settled : Settled tokens state) :
    (state.run " ORDER BY created_at DESC LIMIT $1 OFFSET $2".toList).finish =
      some (tokens.reverse ++ listTail) := by
  have opened : state.run " ORDER BY created_at DESC LIMIT $1 OFFSET $2".toList =
      ⟨[word "OFFSET", .parameter ['1'], word "LIMIT", word "DESC", word "created_at", word "BY",
        word "ORDER"] ++ tokens, .parameter ['2']⟩ :=
    (settled.run (by decide) "RDER BY created_at DESC LIMIT $1 OFFSET $2".toList).trans rfl
  rw [opened]
  simp [LexState.finish, listTail]

theorem usernameClause_append (value rest : List Char) :
    usernameClause value ++ rest = usernameOpening ++ (value ++ '%' :: '\'' :: rest) := by
  unfold usernameClause usernameOpening
  rw [List.append_assoc, List.append_assoc]
  rfl

theorem emailClause_append (value rest : List Char) :
    emailClause value ++ rest = emailOpening ++ (value ++ '%' :: '\'' :: rest) := by
  unfold emailClause emailOpening
  rw [List.append_assoc, List.append_assoc]
  rfl

theorem usernameClause_settled (settled : Settled tokens state) (plain : '\'' ∉ value) :
    Settled ((Condition.username (contains value)).tokens.reverse ++ tokens)
      (state.run (usernameClause value)) := by
  rw [← List.append_nil (usernameClause value), usernameClause_append, run_append,
    usernameClause_opens settled]
  exact settled_value plain

theorem emailClause_settled (settled : Settled tokens state) (plain : '\'' ∉ value) :
    Settled ((Condition.email (contains value)).tokens.reverse ++ tokens)
      (state.run (emailClause value)) := by
  rw [← List.append_nil (emailClause value), emailClause_append, run_append,
    emailClause_opens settled]
  exact settled_value plain

/-- The digits of a number are one word. -/
theorem settled_number {number : Int} (natural : 0 ≤ number) :
    Settled (.word (toString number).toList :: tokens)
      (LexState.run ⟨tokens, .between⟩ (toString number).toList) := by
  obtain ⟨magnitude, rfl⟩ := Int.eq_ofNat_of_zero_le natural
  rw [integer_ofNat]
  have digits : ∀ character ∈ (toString magnitude).toList, continuesWord character = true := by
    intro character inside
    simp [continuesWord, isDigit_decimal inside]
  have filled : (toString magnitude).toList ≠ [] := by
    rw [Nat.toString_eq_repr, Nat.toList_repr]
    exact Nat.toDigits_ne_nil
  cases shape : (toString magnitude).toList with
  | nil => exact absurd shape filled
  | cons character rest =>
      rw [shape] at digits
      obtain ⟨first, others⟩ := List.forall_mem_cons.mp digits
      have opened : LexState.run ⟨tokens, .between⟩ (character :: rest) =
          LexState.run ⟨tokens, .word [character]⟩ rest :=
        congrArg (fun next : LexState => next.run rest) (between_word first)
      rw [opened, run_word others]
      exact settled_word

theorem statusClause_settled (settled : Settled tokens state) {number : Int} (natural : 0 ≤ number) :
    Settled ((Condition.status (toString number).toList).tokens.reverse ++ tokens)
      (state.run (statusClause number)) := by
  have opened : state.run " AND status = ".toList =
      ⟨.symbol '=' :: word "status" :: word "AND" :: tokens, .between⟩ :=
    (settled.run (by decide) "ND status = ".toList).trans rfl
  unfold statusClause
  rw [run_append, opened]
  exact settled_number natural

theorem roleClause_settled (settled : Settled tokens state) {number : Int} (natural : 0 ≤ number) :
    Settled ((Condition.role (toString number).toList).tokens.reverse ++ tokens)
      (state.run (roleClause number)) := by
  have opened : state.run " AND role = ".toList =
      ⟨.symbol '=' :: word "role" :: word "AND" :: tokens, .between⟩ :=
    (settled.run (by decide) "ND role = ".toList).trans rfl
  unfold roleClause
  rw [run_append, opened]
  exact settled_number natural

/-- A filter that is there adds the tokens of its condition. -/
theorem clause_settled {Value : Type} {text : Value → List Char} {condition : Value → Condition}
    {filter : Option Value} (settled : Settled tokens state)
    (each : ∀ value, filter = some value →
      Settled ((condition value).tokens.reverse ++ tokens) (state.run (text value))) :
    Settled (((filter.map condition).toList.flatMap Condition.tokens).reverse ++ tokens)
      (state.run (clause text filter)) := by
  cases filter with
  | none => exact settled
  | some value =>
      have one := each value rfl
      simpa [clause] using one

end Segments

section Contained

variable {request : ListUsersRequest} {state : LexState} {tokens : List SqlToken}

/-- The values that the request puts between quotes. -/
def filterValues (request : ListUsersRequest) : List (List Char) :=
  request.username.toList ++ request.email.toList

/-- A text that neither ends a literal nor the statement. -/
def Plain (value : List Char) : Prop := '\'' ∉ value ∧ Char.ofNat 0 ∉ value

/-- The enumerations of a request have no negative value. -/
structure Natural (request : ListUsersRequest) : Prop where
  status : ∀ value, request.status = some value → 0 ≤ value
  role : ∀ value, request.role = some value → 0 ≤ value

/-- The conditions that both statements append. -/
def clauses (request : ListUsersRequest) : List Char :=
  clause usernameClause request.username ++ (clause emailClause request.email ++
    (clause statusClause request.status ++ clause roleClause request.role))

theorem clauses_settled (settled : Settled tokens state) (natural : Natural request)
    (plain : ∀ value ∈ filterValues request, Plain value) :
    Settled ((conditionTokens request).reverse ++ tokens) (state.run (clauses request)) := by
  have first : ∀ value, request.username = some value → '\'' ∉ value := fun value found =>
    (plain value (List.mem_append_left _ (by rw [found]; exact List.mem_singleton_self _))).1
  have second : ∀ value, request.email = some value → '\'' ∉ value := fun value found =>
    (plain value (List.mem_append_right _ (by rw [found]; exact List.mem_singleton_self _))).1
  have one := clause_settled settled fun value found => usernameClause_settled settled (first value found)
  have two := clause_settled one fun value found => emailClause_settled one (second value found)
  have three := clause_settled two fun value found =>
    statusClause_settled two (natural.status value found)
  have four := clause_settled three fun value found =>
    roleClause_settled three (natural.role value found)
  simpa only [clauses, run_append, conditionTokens, filterConditions, List.flatMap_append,
    List.reverse_append, List.append_assoc] using four

abbrev zero : Char := Char.ofNat 0

theorem cString_append {first : List Char} (free : zero ∉ first) (rest : List Char) :
    cString (first ++ rest) = first ++ cString rest :=
  List.takeWhile_append_of_pos fun character inside =>
    decide_eq_true fun same : character = zero => free (same ▸ inside)

theorem cString_free {text : List Char} (free : zero ∉ text) : cString text = text := by
  have whole := cString_append free []
  rw [List.append_nil] at whole
  exact whole.trans (List.append_nil text)

theorem cString_cut {value : List Char} (cut : zero ∈ value) (rest : List Char) :
    cString (value ++ rest) = cString value ∧ (cString value).length < value.length := by
  obtain ⟨first, second, rfl, free⟩ := List.eq_append_cons_of_mem cut
  have ended : ∀ others, cString (first ++ zero :: others) = first := fun others => by
    rw [cString_append free]
    exact List.append_nil first
  rw [List.append_assoc, List.cons_append, ended, ended]
  exact ⟨rfl, by simp⟩

theorem zero_not_mem_number {number : Int} : zero ∉ (toString number).toList :=
  not_mem_integer (by decide) (by decide) number

theorem zero_not_mem_clause {Value : Type} {text : Value → List Char} {filter : Option Value}
    (free : ∀ value, filter = some value → zero ∉ text value) : zero ∉ clause text filter := by
  cases filter with
  | none => exact List.not_mem_nil
  | some value => exact free value rfl

theorem zero_not_mem_append {first second : List Char} (left : zero ∉ first) (right : zero ∉ second) :
    zero ∉ first ++ second := by
  rw [List.mem_append, not_or]
  exact ⟨left, right⟩

theorem zero_not_mem_clauses (plain : ∀ value ∈ filterValues request, Plain value) :
    zero ∉ clauses request := by
  apply zero_not_mem_append
  · apply zero_not_mem_clause
    intro value found
    have free := (plain value (List.mem_append_left _ (by rw [found]; exact List.mem_singleton_self _))).2
    exact zero_not_mem_append (zero_not_mem_append (by decide) free) (by decide)
  apply zero_not_mem_append
  · apply zero_not_mem_clause
    intro value found
    have free := (plain value (List.mem_append_right _ (by rw [found]; exact List.mem_singleton_self _))).2
    exact zero_not_mem_append (zero_not_mem_append (by decide) free) (by decide)
  apply zero_not_mem_append
  · apply zero_not_mem_clause
    exact fun value _ => zero_not_mem_append (by decide) zero_not_mem_number
  · apply zero_not_mem_clause
    exact fun value _ => zero_not_mem_append (by decide) zero_not_mem_number

theorem countSql_eq : countSql request = countStart ++ clauses request := by
  unfold countStart
  rw [List.append_assoc]
  rfl

theorem listSql_eq : listSql request = listStart ++
    (clauses request ++ " ORDER BY created_at DESC LIMIT $1 OFFSET $2".toList) := by
  unfold listStart listSql whereClause clauses
  simp only [List.append_assoc]

/-- Plain filter values stay literals in the count statement. -/
theorem countSql_lexed (natural : Natural request) (plain : ∀ value ∈ filterValues request, Plain value) :
    lexSql (cString (countSql request)) = some (countTemplate request) := by
  have free : zero ∉ countStart ++ clauses request :=
    zero_not_mem_append (by decide +kernel) (zero_not_mem_clauses plain)
  rw [countSql_eq, cString_free free]
  unfold lexSql
  rw [run_append, (clauses_settled countHead_settled natural plain).1]
  simp [countTemplate]

/-- Plain filter values stay literals in the list statement. -/
theorem listSql_lexed (natural : Natural request) (plain : ∀ value ∈ filterValues request, Plain value) :
    lexSql (cString (listSql request)) = some (listTemplate request) := by
  have free : zero ∉ listStart ++
      (clauses request ++ " ORDER BY created_at DESC LIMIT $1 OFFSET $2".toList) := by
    apply zero_not_mem_append
    · decide +kernel
    · exact zero_not_mem_append (zero_not_mem_clauses plain) (by decide +kernel)
  rw [listSql_eq, cString_free free]
  unfold lexSql
  rw [run_append, run_append, listTail_finishes (clauses_settled listHead_settled natural plain)]
  simp [listTemplate]

end Contained

section Rows

variable {request : ListUsersRequest}

theorem parseConditions_cons (condition : Condition) (more : List SqlToken) :
    parseConditions (condition.tokens ++ more) =
      (condition :: (parseConditions more).1, (parseConditions more).2) := by
  cases condition <;> rfl

theorem parseConditions_tokens {tail : List SqlToken} (ends : parseConditions tail = ([], tail))
    (conditions : List Condition) :
    parseConditions (conditions.flatMap Condition.tokens ++ tail) = (conditions, tail) := by
  induction conditions with
  | nil => exact ends
  | cons condition rest ih => rw [List.flatMap_cons, List.append_assoc, parseConditions_cons, ih]

/-- A template is read back as its conditions. -/
theorem parseSelect_tokens {head tail : List SqlToken} (ends : parseConditions tail = ([], tail))
    (conditions : List Condition) :
    parseSelect head tail (head ++ (conditions.flatMap Condition.tokens ++ tail)) = some conditions := by
  unfold parseSelect
  rw [if_pos (List.prefix_append _ _), List.drop_left, parseConditions_tokens ends]
  exact if_pos rfl

theorem all_filter {Value : Type} {filter : Option Value} {condition : Value → Condition}
    {user : UserRecord} {test : Value → Bool} (same : ∀ value, (condition value).holds user = test value) :
    ((filter.map condition).toList.all fun condition => condition.holds user) = filter.all test := by
  cases filter with
  | none => rfl
  | some value => simp [same]

theorem holds_number (column value : Int) :
    decide ((toString column).toList = (toString value).toList) = decide (column = value) := by
  rw [decide_eq_decide]
  constructor
  · exact fun same => integer_injective (String.toList_inj.mp same)
  · exact fun same => by rw [same]

theorem selectUsers_filterConditions (users : List UserRecord) :
    selectUsers (filterConditions request) users = users.filter (matchesFilters request) := by
  apply List.filter_congr
  intro user _
  unfold filterConditions matchesFilters
  rw [List.all_append, List.all_append, List.all_append]
  congr 1
  · exact all_filter fun _ => rfl
  congr 1
  · exact all_filter fun _ => rfl
  congr 1
  · exact all_filter fun value => holds_number user.status value
  · exact all_filter fun value => holds_number user.role value

end Rows

section Escapes

variable {request : ListUsersRequest} {before : List SqlToken} {value tail : List Char}
  {all rest : List SqlToken}

theorem literal_unique {text : List Char}
    (inside : (SqlToken.literal false text :: before) <:+ all.reverse)
    (shape : all = before.reverse ++ .literal false (contains value) :: rest) :
    text = contains value := by
  obtain ⟨front, whole⟩ := inside
  have other : all.reverse = rest.reverse ++ .literal false (contains value) :: before := by
    rw [shape]
    simp
  rw [other] at whole
  have ends := (List.append_inj' whole rfl).2
  simpa using ends

/-- A value that is lexed as the middle of its literal neither ends the literal nor the statement. -/
theorem plain_of_lexed
    (finished : (LexState.run ⟨before, .literal false ['%']⟩
      (cString (value ++ '%' :: '\'' :: tail))).finish = some all)
    (shape : all = before.reverse ++ .literal false (contains value) :: rest)
    (follows : FollowsLiteral (cString tail))
    (later : 0 < lineBreaks tail → ∃ position text, before.length < position ∧
      all[position]? = some (.literal false text) ∧ lineBreaks tail ≤ lineBreaks text) :
    Plain value := by
  have long : (contains value).length = value.length + 2 := by simp [contains]
  have whole : zero ∉ value := by
    intro cut
    obtain ⟨ended, shorter⟩ := cString_cut cut ('%' :: '\'' :: tail)
    rw [ended] at finished
    obtain ⟨text, short, inside⟩ := shortened_by_end finished
    rw [literal_unique inside shape] at short
    omega
  refine ⟨fun quote => ?_, whole⟩
  have passed : cString (value ++ '%' :: '\'' :: tail) = value ++ '%' :: '\'' :: cString tail := by
    rw [cString_append whole]
    rfl
  rw [passed] at finished
  rcases altered_by_quote quote follows finished with ⟨text, short, inside⟩ | ⟨some, fewer⟩
  · rw [literal_unique inside shape] at short
    omega
  · have cut : lineBreaks (cString tail) ≤ lineBreaks tail :=
      (List.takeWhile_sublist _).countP_le
    obtain ⟨position, text, beyond, found, enough⟩ := later (by omega)
    have less := fewer position beyond text found
    omega

theorem follows_nil : FollowsLiteral (cString []) := .inl rfl

/-- A clause begins with a blank and a word. -/
theorem follows_clause {Value : Type} {text : Value → List Char} {filter : Option Value}
    (follows : FollowsLiteral (cString tail)) (opens : ∀ value, ∃ more, text value = ' ' :: 'A' :: more) :
    FollowsLiteral (cString (clause text filter ++ tail)) := by
  cases filter with
  | none => exact follows
  | some value =>
      obtain ⟨more, opened⟩ := opens value
      refine .inr ⟨'A', cString (more ++ tail), ?_, by decide⟩
      change cString (text value ++ tail) = _
      rw [opened]
      rfl

theorem lineBreaks_number (number : Int) : lineBreaks (toString number).toList = 0 := by
  refine List.countP_eq_zero.mpr fun character inside line => ?_
  rcases Bool.or_eq_true_iff.mp line with same | same
  · exact not_mem_integer (by decide) (by decide) number (of_decide_eq_true same ▸ inside)
  · exact not_mem_integer (by decide) (by decide) number (of_decide_eq_true same ▸ inside)

theorem lineBreaks_status : lineBreaks (clause statusClause request.status) = 0 := by
  cases request.status with
  | none => rfl
  | some value =>
      change lineBreaks (statusClause value) = 0
      unfold statusClause
      rw [lineBreaks_append, lineBreaks_number]
      rfl

theorem lineBreaks_role : lineBreaks (clause roleClause request.role) = 0 := by
  cases request.role with
  | none => rfl
  | some value =>
      change lineBreaks (roleClause value) = 0
      unfold roleClause
      rw [lineBreaks_append, lineBreaks_number]
      rfl

theorem follows_numbers : FollowsLiteral
    (cString (clause statusClause request.status ++ clause roleClause request.role)) := by
  apply follows_clause
  · have last : FollowsLiteral (cString (clause roleClause request.role ++ [])) :=
      follows_clause follows_nil fun value => ⟨_, rfl⟩
    rw [List.append_nil] at last
    exact last
  · exact fun value => ⟨_, rfl⟩

/-- A user name that the count statement lexes as its template is plain. -/
theorem username_plain (found : request.username = some value)
    (lexed : lexSql (cString (countSql request)) = some (countTemplate request)) : Plain value := by
  have whole : countSql request = (countStart ++ usernameOpening) ++ (value ++ '%' :: '\'' ::
      (clause emailClause request.email ++
        (clause statusClause request.status ++ clause roleClause request.role))) := by
    rw [countSql_eq, List.append_assoc, ← usernameClause_append]
    unfold clauses
    rw [found]
    rfl
  rw [whole, cString_append (by decide +kernel)] at lexed
  unfold lexSql at lexed
  rw [run_append, run_append, usernameClause_opens countHead_settled] at lexed
  have template : countTemplate request =
      (word "LIKE" :: word "username" :: word "AND" :: countHead.reverse).reverse ++
        .literal false (contains value) :: ((request.email.map fun value =>
          Condition.email (contains value)).toList ++
            ((request.status.map fun value => Condition.status (toString value).toList).toList ++
              (request.role.map fun value =>
                Condition.role (toString value).toList).toList)).flatMap Condition.tokens := by
    simp [countTemplate, conditionTokens, filterConditions, found, Condition.tokens, likeTokens]
  refine plain_of_lexed lexed template ?_ ?_
  · exact follows_clause follows_numbers fun value => ⟨_, rfl⟩
  · intro breaks
    cases mail : request.email with
    | none =>
        rw [mail, lineBreaks_append, lineBreaks_append, lineBreaks_status, lineBreaks_role] at breaks
        exact absurd breaks (Nat.lt_irrefl 0)
    | some address =>
        have inner : lineBreaks (clause emailClause (some address) ++
            (clause statusClause request.status ++ clause roleClause request.role)) =
            lineBreaks address := by
          rw [lineBreaks_append, lineBreaks_append, lineBreaks_status, lineBreaks_role]
          change lineBreaks (emailClause address) + (0 + 0) = _
          unfold emailClause
          rw [lineBreaks_append, lineBreaks_append]
          exact Nat.zero_add _
        refine ⟨(word "LIKE" :: word "username" :: word "AND" :: countHead.reverse).length + 4,
          contains address, by omega, ?_, ?_⟩
        · rw [template, mail, List.getElem?_append_right (by simp)]
          simp [Condition.tokens, likeTokens]
        · rw [inner]
          exact (List.sublist_append_left _ _).countP_le.trans
            (List.sublist_cons_self _ _).countP_le

/-- Behind a plain user name, an email that is lexed as its template is plain. -/
theorem email_plain (found : request.email = some value)
    (first : ∀ other, request.username = some other → Plain other)
    (lexed : lexSql (cString (countSql request)) = some (countTemplate request)) : Plain value := by
  have whole : countSql request = (countStart ++ (clause usernameClause request.username ++
      emailOpening)) ++ (value ++ '%' :: '\'' ::
        (clause statusClause request.status ++ clause roleClause request.role)) := by
    rw [countSql_eq, List.append_assoc, List.append_assoc, ← emailClause_append]
    unfold clauses
    rw [found]
    rfl
  have free : zero ∉ countStart ++ (clause usernameClause request.username ++ emailOpening) := by
    apply zero_not_mem_append
    · decide +kernel
    apply zero_not_mem_append
    · apply zero_not_mem_clause
      exact fun other same => zero_not_mem_append
        (zero_not_mem_append (by decide) (first other same).2) (by decide)
    · decide
  have settled := clause_settled countHead_settled fun other same =>
    usernameClause_settled countHead_settled (first other same).1
  rw [whole, cString_append free] at lexed
  unfold lexSql at lexed
  rw [run_append, run_append, run_append, emailClause_opens settled] at lexed
  have template : countTemplate request =
      (word "LIKE" :: word "email" :: word "AND" ::
        (((request.username.map fun value => Condition.username (contains value)).toList.flatMap
          Condition.tokens).reverse ++ countHead.reverse)).reverse ++
        .literal false (contains value) ::
          ((request.status.map fun value => Condition.status (toString value).toList).toList ++
            (request.role.map fun value =>
              Condition.role (toString value).toList).toList).flatMap Condition.tokens := by
    simp [countTemplate, conditionTokens, filterConditions, found, Condition.tokens, likeTokens]
  refine plain_of_lexed lexed template follows_numbers fun breaks => ?_
  rw [lineBreaks_append, lineBreaks_status, lineBreaks_role] at breaks
  exact absurd breaks (Nat.lt_irrefl 0)

end Escapes

section Guarantees

variable {timestamp : Int → String} {other : OtherStatements} {request : ListUsersRequest}

theorem queryChoice_natural {text : List Char} {key : String} {most : Int} {invalid : ErrorInfo}
    {value : Int} (read : queryChoice text key most invalid = .value (some value)) : 0 ≤ value := by
  unfold queryChoice at read
  split at read
  · cases read
  · split at read
    · cases read
    · split at read
      · cases read
      · split at read
        · cases read
        · rename_i inside
          cases read
          omega

/-- An accepted request has a natural page and page size. -/
theorem fromRequest_natural {getParameter : String → List Char}
    (accepted : ListUsersRequest.fromRequest getParameter = .value request) : Natural request := by
  unfold ListUsersRequest.fromRequest at accepted
  split at accepted
  · cases accepted
  · cases accepted
  split at accepted
  · cases accepted
  · cases accepted
  split at accepted
  · cases accepted
  · cases accepted
  rename_i status statusRead
  split at accepted
  · cases accepted
  · cases accepted
  rename_i role roleRead
  cases accepted
  constructor
  · rintro value rfl
    exact queryChoice_natural statusRead
  · rintro value rfl
    exact queryChoice_natural roleRead

theorem listUsers_rows (count : lexSql (cString (countSql request)) = some (countTemplate request))
    (list : lexSql (cString (listSql request)) = some (listTemplate request))
    (users : List UserRecord) : listUsers timestamp other request users =
      .ok (buildUserList timestamp request (users.filter (matchesFilters request)).length
        (((newestFirst (users.filter (matchesFilters request))).drop request.offset).take
          request.pageSize.toNat)) := by
  have counted : parseSelect countHead [] (countTemplate request) = some (filterConditions request) := by
    have parsed : parseSelect countHead [] (countHead ++ (conditionTokens request ++ [])) =
        some (filterConditions request) := parseSelect_tokens rfl (filterConditions request)
    rw [List.append_nil] at parsed
    exact parsed
  have listed : parseSelect listHead listTail (listTemplate request) = some (filterConditions request) :=
    parseSelect_tokens rfl (filterConditions request)
  unfold listUsers executeCount executeList
  simp only [count, list, Option.bind_some, counted, listed, selectUsers_filterConditions]

/-- The filters stay within their literals, and the response lists the users that match them, exactly when
no filter has a quote or a zero. -/
theorem filters_contained_iff (timestamp : Int → String) (other : OtherStatements)
    {getParameter : String → List Char} {request : ListUsersRequest}
    (accepted : ListUsersRequest.fromRequest getParameter = .value request) :
    FiltersContained timestamp other request ↔ ∀ value ∈ filterValues request, Plain value := by
  have natural := fromRequest_natural accepted
  constructor
  · intro contained value inside
    have first : ∀ name, request.username = some name → Plain name :=
      fun name found => username_plain found contained.count
    rcases List.mem_append.mp inside with name | address
    · exact first value (Option.mem_toList.mp name)
    · exact email_plain (Option.mem_toList.mp address) first contained.count
  · intro plain
    have count := countSql_lexed natural plain
    have list := listSql_lexed natural plain
    exact ⟨count, list, listUsers_rows count list⟩

def aliceParameters (key : String) : List Char :=
  if key = "username" then "alice".toList
  else if key = "email" then "a\\_b\n--/*".toList
  else if key = "status" then "1".toList
  else []

def aliceRequest : ListUsersRequest :=
  ⟨1, 20, some "alice".toList, some "a\\_b\n--/*".toList, some 1, none⟩

/-- Backslashes, line breaks and the beginnings of comments stay within a literal. -/
theorem filters_contained_iff_alice :
    ListUsersRequest.fromRequest aliceParameters = .value aliceRequest ∧
      FiltersContained toString ⟨fun _ _ => none, fun _ _ _ _ => none⟩ aliceRequest := by
  have accepted : ListUsersRequest.fromRequest aliceParameters = .value aliceRequest := by rfl
  refine ⟨accepted, (filters_contained_iff _ _ accepted).mpr ?_⟩
  intro value inside
  rcases List.mem_append.mp inside with name | address
  · cases Option.mem_toList.mp name
    exact ⟨by decide, by decide⟩
  · cases Option.mem_toList.mp address
    exact ⟨by decide, by decide⟩

def injectionParameters (key : String) : List Char :=
  if key = "username" then "' OR '1'='1".toList else []

/-- A quote in the filter ends its literal, and the rest of the filter becomes a part of the statement. -/
theorem filter_becomes_condition : ∃ request,
    ListUsersRequest.fromRequest injectionParameters = .value request ∧
    lexSql (cString (countSql request)) = some (countHead ++ likeTokens "username" ['%'] ++
      [word "OR", .literal false ['1'], .symbol '=', .literal false ['1', '%']]) ∧
    ∀ timestamp other, ¬ FiltersContained timestamp other request := by
  have lexed : lexSql (cString (countSql ⟨1, 20, some "' OR '1'='1".toList, none, none, none⟩)) =
      some (countHead ++ likeTokens "username" ['%'] ++
        [word "OR", .literal false ['1'], .symbol '=', .literal false ['1', '%']]) := by
    decide +kernel
  refine ⟨⟨1, 20, some "' OR '1'='1".toList, none, none, none⟩, by rfl, lexed, ?_⟩
  intro timestamp other contained
  have same := contained.count
  rw [lexed] at same
  exact absurd same (by decide +kernel)

end Guarantees

end DiskServer.Admin
