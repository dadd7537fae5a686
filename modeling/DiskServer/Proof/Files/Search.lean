import DiskServer.Construction.Files.Search
import DiskServer.Proof.Utils.DtoBase

namespace DiskServer.Files

open Library Utils

section Words

variable {keyword : List Char}

/-- The normalized text so far has the words of the keyword, whatever follows. -/
structure Normalized (keyword : List Char) (state : List Char × Bool) : Prop where
  words : ∀ rest, wordsOf ' ' (state.1 ++ rest) = wordsOf ' ' (keyword ++ rest)
  ended : state.2 = true → state.1 = [] ∨ ∃ before, state.1 = before ++ [' ']

/-- One character keeps the normalization in step. -/
theorem Normalized.step {state : List Char × Bool} (normalized : Normalized keyword state) (character : Char) :
    Normalized (keyword ++ [character]) (normalizeStep state character) := by
  obtain ⟨text, blank⟩ := state
  unfold normalizeStep
  by_cases space : character = ' '
  · subst space
    rw [if_pos rfl]
    have same : wordsOf ' ' text = wordsOf ' ' keyword := by
      have plain := normalized.words []
      rwa [List.append_nil, List.append_nil] at plain
    have goal : ∀ rest, wordsOf ' ' (keyword ++ [' '] ++ rest) = wordsOf ' ' text ++ wordsOf ' ' rest := by
      intro rest
      rw [List.append_assoc, List.singleton_append, wordsOf_append, same]
    cases blank with
    | false =>
        refine ⟨?_, fun _ => .inr ⟨text, rfl⟩⟩
        intro rest
        rw [goal]
        simp only [Bool.false_eq_true, if_false, List.append_assoc, List.singleton_append]
        exact wordsOf_append
    | true =>
        refine ⟨?_, fun _ => normalized.ended rfl⟩
        intro rest
        rw [goal, if_pos rfl]
        rcases normalized.ended rfl with empty | ⟨before, last⟩
        · simp only at empty
          rw [empty, wordsOf_nil]
          rfl
        · simp only at last
          rw [last, wordsOf_snoc, List.append_assoc, List.singleton_append, wordsOf_append]
  · rw [if_neg space]
    refine ⟨?_, fun wrong => absurd wrong Bool.false_ne_true⟩
    intro rest
    rw [List.append_assoc, List.append_assoc]
    exact normalized.words _

theorem normalized_foldl (keyword : List Char) : Normalized keyword (keyword.foldl normalizeStep ([], true)) := by
  induction keyword using List.reverseRecOn with
  | nil => exact ⟨fun _ => rfl, fun _ => .inl rfl⟩
  | append_singleton keyword character ih =>
      rw [List.foldl_append]
      exact ih.step character

/-- Blanks are squeezed without a change of the words. -/
theorem wordsOf_normalize (keyword : List Char) :
    wordsOf ' ' (normalizeFulltextKeyword keyword) = wordsOf ' ' keyword := by
  have words := (normalized_foldl keyword).words []
  rw [List.append_nil, List.append_nil] at words
  unfold normalizeFulltextKeyword
  rw [← words]
  generalize (keyword.foldl normalizeStep ([], true)).1 = text
  by_cases last : text.getLast? = some ' '
  · simp only [last, if_true]
    obtain ⟨before, rfl⟩ := List.getLast?_eq_some_iff.mp last
    rw [List.dropLast_concat, wordsOf_snoc]
  · simp only [last, if_false]

/-- The characters that are not blanks are kept. -/
theorem mem_normalize (keyword : List Char) {character : Char} (other : character ≠ ' ') :
    character ∈ normalizeFulltextKeyword keyword ↔ character ∈ keyword := by
  have kept : ∀ keyword : List Char, character ∈ (keyword.foldl normalizeStep ([], true)).1 ↔ character ∈ keyword := by
    intro keyword
    induction keyword using List.reverseRecOn with
    | nil => rfl
    | append_singleton keyword last ih =>
        rw [List.foldl_append, List.foldl_cons, List.foldl_nil, List.mem_append, ← ih]
        unfold normalizeStep
        repeat' split
        all_goals simp_all
  rw [← kept keyword]
  unfold normalizeFulltextKeyword
  generalize (keyword.foldl normalizeStep ([], true)).1 = text
  by_cases last : text.getLast? = some ' '
  · simp only [last, if_true]
    obtain ⟨before, rfl⟩ := List.getLast?_eq_some_iff.mp last
    simp [other]
  · simp only [last, if_false]

end Words

section Eligible

variable {keyword : List Char}

/-- A keyword for the full-text search has letters, digits and blanks alone. -/
theorem plain_of_eligible (eligible : isFulltextEligible keyword = true) :
    ∀ character ∈ keyword, character.isAlphanum ∨ character = ' ' := by
  intro character present
  by_cases blank : character = ' '
  · exact .inr blank
  · simp only [isFulltextEligible, Bool.and_eq_true, List.all_eq_true, Bool.or_eq_true, decide_eq_true_eq] at eligible
    exact eligible.1.2 character ((mem_normalize keyword blank).mpr present)

theorem not_special {character : Char} (plain : character.isAlphanum ∨ character = ' ') (special : Char)
    (other : special.isAlphanum = false) (nonblank : special ≠ ' ') : character ≠ special := by
  rintro rfl
  rcases plain with letter | blank
  · exact Bool.false_ne_true (other.symm.trans letter)
  · exact nonblank blank

theorem sqlLike_percent (text : List Char) : Drive.sqlLike ['%'] text = true := by
  rw [Drive.sqlLike, List.any_eq_true]
  exact ⟨[], by simp, rfl⟩

/-- A pattern of plain characters and a percent sign finds the texts that begin with them. -/
theorem sqlLike_of_start {pattern : List Char} (text : List Char)
    (plain : ∀ character ∈ pattern, character ≠ '%' ∧ character ≠ '_' ∧ character ≠ '\\') :
    Drive.sqlLike (pattern ++ ['%']) text = true ↔ pattern <+: text := by
  induction pattern generalizing text with
  | nil => simp [sqlLike_percent]
  | cons wanted pattern ih =>
      obtain ⟨⟨percent, underscore, escape⟩, others⟩ := List.forall_mem_cons.mp plain
      cases text with
      | nil => simp [Drive.sqlLike]
      | cons character text =>
          rw [List.cons_append, Drive.sqlLike, Bool.and_eq_true, beq_iff_eq, ih text others, List.cons_prefix_cons]
          all_goals simp_all

/-- The plain search finds the names that contain the keyword. -/
theorem likeMatches_iff (name : List Char) (plain : ∀ character ∈ keyword, character ≠ '%' ∧ character ≠ '_' ∧
      character ≠ '\\' ∧ character ≠ Char.ofNat 0) : likeMatches keyword name = true ↔ keyword <:+: name := by
  have escaped : escapeLikeKeyword keyword = keyword := by
    unfold escapeLikeKeyword
    calc
      keyword.flatMap (fun character => if character = '_' then ['\\', '_'] else [character])
      _ = keyword.flatMap fun character => [character] :=
        List.flatMap_congr fun character present => if_neg (plain character present).2.1
      _ = keyword := by simp
  have whole : boundText ('%' :: keyword ++ ['%']) = '%' :: keyword ++ ['%'] := by
    apply List.takeWhile_eq_self_iff.mpr
    intro character present
    rcases List.mem_append.mp present with early | last
    · rcases List.mem_cons.mp early with rfl | inside
      · decide
      · exact decide_eq_true (plain character inside).2.2.2
    · obtain rfl := List.mem_singleton.mp last
      decide
  unfold likeMatches
  rw [escaped, whole, List.cons_append, Drive.sqlLike, List.any_eq_true]
  constructor
  · rintro ⟨tail, ends, found⟩
    have begins := (sqlLike_of_start tail fun character present =>
      ⟨(plain character present).1, (plain character present).2.1, (plain character present).2.2.1⟩).mp found
    exact begins.isInfix.trans ((List.mem_tails _ _).mp ends).isInfix
  · rintro ⟨before, after, rfl⟩
    refine ⟨keyword ++ after, (List.mem_tails _ _).mpr ⟨before, by simp⟩, ?_⟩
    exact (sqlLike_of_start _ fun character present =>
      ⟨(plain character present).1, (plain character present).2.1, (plain character present).2.2.1⟩).mpr
        (List.prefix_append _ _)

theorem likeMatches_of_eligible (eligible : isFulltextEligible keyword = true) (name : List Char) :
    likeMatches keyword name = true ↔ keyword <:+: name := by
  apply likeMatches_iff
  intro character present
  have plain := plain_of_eligible eligible character present
  exact ⟨not_special plain _ (by decide) (by decide), not_special plain _ (by decide) (by decide),
    not_special plain _ (by decide) (by decide), not_special plain _ (by decide) (by decide)⟩

theorem fulltextMatches_iff (search : TextSearch) (keyword name : List Char) :
    fulltextMatches search keyword name = true ↔
      ∃ word ∈ wordsOf ' ' keyword, word.map search.fold ∈ search.lexemes name := by
  unfold fulltextMatches
  rw [wordsOf_normalize, List.any_eq_true]
  simp

end Eligible

section InnerWords

variable {search : TextSearch} {keyword : List Char}

/-- A whole word of the keyword stands between two of its blanks. -/
def HasInnerWord (keyword : List Char) : Prop :=
  ∃ before word after, keyword = before ++ ' ' :: (word ++ ' ' :: after) ∧ word ≠ [] ∧ ' ' ∉ word

/-- An inner word of the keyword is a lexeme of each name that contains the keyword. -/
theorem HasInnerWord.lexeme (inner : HasInnerWord keyword)
    (kept : ∀ word ∈ wordsOf ' ' keyword, readsNumber word = false)
    (plain : ∀ character ∈ keyword, character.isAlphanum ∨ character = ' ') {name : List Char}
    (untagged : '<' ∉ name) (contained : keyword <:+: name) :
    ∃ word ∈ wordsOf ' ' keyword, word.map search.fold ∈ search.lexemes name := by
  obtain ⟨before, word, after, rfl, long, whole⟩ := inner
  obtain ⟨left, right, rfl⟩ := contained
  have listed : word ∈ wordsOf ' ' (before ++ ' ' :: (word ++ ' ' :: after)) := by
    rw [wordsOf_append, wordsOf_append, wordsOf_single whole long]
    simp
  refine ⟨word, listed, ?_⟩
  have letters : ∀ character ∈ word, character.isAlphanum := by
    intro character present
    rcases plain character (by simp [present]) with letter | blank
    · exact letter
    · exact absurd (blank ▸ present) whole
  have lexeme := search.between (left ++ before) word (after ++ right)
    (fun tag => untagged (by simp only [List.mem_append, List.mem_cons] at tag ⊢; tauto)) long letters
    (kept word listed)
  simpa using lexeme

/-- The letters that extend a word. None is a digit, a blank or the mark of an exponent. -/
def Extends (letter : Char) : Prop := letter = 'x' ∨ letter = 'y'

theorem Extends.facts {letter : Char} (added : Extends letter) :
    letter.isAlphanum = true ∧ letter ≠ ' ' ∧ letter.isDigit = false := by
  rcases added with rfl | rfl <;> decide

/-- A word that begins with a letter starts as no number. -/
theorem readsNumber_cons {letter : Char} (added : Extends letter) (word : List Char) :
    readsNumber (letter :: word) = false := by
  unfold readsNumber
  split
  · rename_i same
    obtain ⟨rfl, -⟩ := List.cons.inj same
    rw [added.facts.2.2, Bool.false_and]
  · rfl

/-- A letter at its end does not make a word start as a number. -/
theorem readsNumber_append {letter : Char} (added : Extends letter) {word : List Char}
    (whole : readsNumber word = false) : readsNumber (word ++ [letter]) = false := by
  induction word with
  | nil => rfl
  | cons first rest ih =>
      match rest with
      | [] => rfl
      | [mark] => simp [readsNumber, added.facts.2.2]
      | mark :: next :: rest =>
          simp only [readsNumber, Bool.and_eq_false_iff, Bool.or_eq_false_iff] at whole
          simp only [List.cons_append, readsNumber, Bool.and_eq_false_iff, Bool.or_eq_false_iff]
          refine whole.imp_right fun both => ⟨both.1, ?_⟩
          exact ih both.2

/-- A letter that extends a word, chosen so that the result is not the other word. -/
theorem exists_letter (search : TextSearch) (other : List Char) (extend : Char → List Char)
    (injective : ∀ one two, (extend one).map search.fold = (extend two).map search.fold →
      search.fold one = search.fold two) :
    ∃ letter : Char, Extends letter ∧ (extend letter).map search.fold ≠ other.map search.fold := by
  by_cases same : (extend 'x').map search.fold = other.map search.fold
  · refine ⟨'y', .inr rfl, ?_⟩
    intro also
    have folded := injective 'x' 'y' (same.trans also.symm)
    rw [search.lower 'x' (by decide), search.lower 'y' (by decide)] at folded
    exact absurd folded (by decide)
  · exact ⟨'x', .inl rfl, same⟩

/-- A keyword without an inner word is one word, or it has two ends with nothing but blanks between them. -/
theorem ends_of_no_inner (absent : ¬HasInnerWord keyword) : ' ' ∉ keyword ∨ ∃ first gap last, ' ' ∉ first ∧ ' ' ∉ last ∧
    keyword = first ++ (gap ++ last) ∧
      ∀ left right, wordsOf ' ' (left ++ (gap ++ right)) = wordsOf ' ' left ++ wordsOf ' ' right := by
  by_cases blank : ' ' ∈ keyword
  · right
    obtain ⟨first, rest, rfl, whole⟩ := List.eq_append_cons_of_mem blank
    by_cases more : ' ' ∈ rest
    · obtain ⟨middle, last, rfl, ended⟩ := exists_last more
      have none : wordsOf ' ' middle = [] := by
        by_contra some
        obtain ⟨word, present⟩ := List.exists_mem_of_ne_nil _ some
        obtain ⟨nonempty, missing, before, after, rfl, left, right⟩ := exists_of_mem_wordsOf present
        apply absent
        rcases left with rfl | ⟨early, rfl⟩ <;> rcases right with rfl | ⟨late, rfl⟩
        · exact ⟨first, word, last, by simp, nonempty, missing⟩
        · exact ⟨first, word, late ++ ' ' :: last, by simp, nonempty, missing⟩
        · exact ⟨first ++ ' ' :: early, word, last, by simp, nonempty, missing⟩
        · exact ⟨first ++ ' ' :: early, word, late ++ ' ' :: last, by simp, nonempty, missing⟩
      refine ⟨first, ' ' :: (middle ++ [' ']), last, whole, ended, by simp, ?_⟩
      intro left right
      calc
        wordsOf ' ' (left ++ (' ' :: (middle ++ [' ']) ++ right))
        _ = wordsOf ' ' (left ++ ' ' :: (middle ++ ' ' :: right)) := by simp
        _ = wordsOf ' ' left ++ (wordsOf ' ' middle ++ wordsOf ' ' right) := by rw [wordsOf_append, wordsOf_append]
        _ = wordsOf ' ' left ++ wordsOf ' ' right := by rw [none, List.nil_append]
    · exact ⟨first, [' '], rest, whole, more, rfl, fun left right => wordsOf_append⟩
  · exact .inl blank

/-- A keyword without an inner word stands in a name that has none of its words. -/
theorem exists_name_without_words (search : TextSearch) (absent : ¬HasInnerWord keyword)
    (kept : ∀ word ∈ wordsOf ' ' keyword, readsNumber word = false) :
    ∃ left right : Char, left.isAlphanum ∧ right.isAlphanum ∧
      (∀ other ∈ wordsOf ' ' (left :: (keyword ++ [right])), readsNumber other = false) ∧
      ∀ word ∈ wordsOf ' ' keyword, ∀ other ∈ wordsOf ' ' (left :: (keyword ++ [right])),
        word.map search.fold ≠ other.map search.fold := by
  rcases ends_of_no_inner absent with single | ⟨first, gap, last, whole, ended, rfl, words⟩
  · have longer : ' ' ∉ 'x' :: (keyword ++ ['x']) := by simp [single]
    refine ⟨'x', 'x', by decide, by decide, ?_, ?_⟩
    · intro other around
      obtain rfl := eq_of_mem_wordsOf longer around
      exact readsNumber_cons (.inl rfl) _
    · intro word present other around same
      obtain rfl := eq_of_mem_wordsOf single present
      obtain rfl := eq_of_mem_wordsOf longer around
      have lengths := congrArg List.length same
      simp only [List.length_map, List.length_cons, List.length_append] at lengths
      omega
  · obtain ⟨left, before, differs⟩ := exists_letter search last (fun letter => letter :: first)
      fun _ _ same => (List.cons.inj same).1
    obtain ⟨right, behind, differsToo⟩ := exists_letter search first (fun letter => last ++ [letter])
      fun one two same => by
        rw [List.map_append, List.map_append] at same
        exact (List.cons.inj (List.append_cancel_left same)).1
    have split : left :: (first ++ (gap ++ last) ++ [right]) = (left :: first) ++ (gap ++ (last ++ [right])) := by simp
    have front : ' ' ∉ left :: first := by simp [whole, before.facts.2.1.symm]
    have back : ' ' ∉ last ++ [right] := by simp [ended, behind.facts.2.1.symm]
    have parts : ∀ other, other ∈ wordsOf ' ' (left :: (first ++ (gap ++ last) ++ [right])) →
        other = left :: first ∨ other = last ++ [right] := by
      intro other around
      rw [split, words, List.mem_append] at around
      exact around.imp (eq_of_mem_wordsOf front) (eq_of_mem_wordsOf back)
    have lastKept : readsNumber last = false := by
      rcases eq_or_ne last [] with rfl | long
      · rfl
      · refine kept last ?_
        rw [words, wordsOf_single ended long]
        simp
    refine ⟨left, right, before.facts.1, behind.facts.1, ?_, ?_⟩
    · intro other around
      rcases parts other around with rfl | rfl
      · exact readsNumber_cons before _
      · exact readsNumber_append behind lastKept
    · intro word present other around same
      rw [words, List.mem_append] at present
      have lengths := congrArg List.length same
      rw [List.length_map, List.length_map] at lengths
      rcases present with here | here <;> rcases parts other around with rfl | rfl
      · obtain rfl := eq_of_mem_wordsOf whole here
        rw [List.length_cons] at lengths
        omega
      · obtain rfl := eq_of_mem_wordsOf whole here
        exact differsToo same.symm
      · obtain rfl := eq_of_mem_wordsOf ended here
        exact differs same.symm
      · obtain rfl := eq_of_mem_wordsOf ended here
        rw [List.length_append, List.length_singleton] at lengths
        omega

end InnerWords

section Pages

variable {search : TextSearch} {locale : Locale} {db : SearchDb} {query : SearchQueryParams} {userId : UInt64}
variable {order : Arrangement (AtMost (searchOrder locale query.type))}

/-- The items of the requested type that the user has in the requested folder. -/
def offered (db : SearchDb) (query : SearchQueryParams) (userId : UInt64) : List SearchRow :=
  (if query.type = .folder then [] else
    (db.files.rows.filter fun file => file.userId = userId && inFolder query file.folderId).map SearchFile.narrow) ++
  if query.type = .file then [] else
    (db.folders.rows.filter fun folder => folder.userId = userId && inFolder query folder.parentId).map
      SearchFolder.narrow

/-- The offered items with a name that matches the keyword. -/
def matching (search : TextSearch) (db : SearchDb) (query : SearchQueryParams) (userId : UInt64) : List SearchRow :=
  (offered db query userId).filter fun row => searchMatches search query.keyword row.name.toList

theorem searchFiles_narrow : (searchFiles search db query userId).map SearchFile.narrow =
    ((db.files.rows.filter fun file => file.userId = userId && inFolder query file.folderId).map
      SearchFile.narrow).filter fun row => searchMatches search query.keyword row.name.toList := by
  unfold searchFiles
  rw [List.filter_map, List.filter_filter]
  congr 1
  apply List.filter_congr
  intro file _
  simp only [Function.comp_apply, SearchFile.narrow]
  cases searchMatches search query.keyword file.name.toList <;> simp

theorem searchFolders_narrow : (searchFolders search db query userId).map SearchFolder.narrow =
    ((db.folders.rows.filter fun folder => folder.userId = userId && inFolder query folder.parentId).map
      SearchFolder.narrow).filter fun row => searchMatches search query.keyword row.name.toList := by
  unfold searchFolders
  rw [List.filter_map, List.filter_filter]
  congr 1
  apply List.filter_congr
  intro folder _
  simp only [Function.comp_apply, SearchFolder.narrow]
  cases searchMatches search query.keyword folder.name.toList <;> simp

theorem matching_all (all : query.type = .all) : matching search db query userId =
    (searchFiles search db query userId).map SearchFile.narrow ++
      (searchFolders search db query userId).map SearchFolder.narrow := by
  unfold matching offered
  rw [all, searchFiles_narrow, searchFolders_narrow, List.filter_append]
  rfl

theorem matching_file (file : query.type = .file) : matching search db query userId =
    (searchFiles search db query userId).map SearchFile.narrow := by
  unfold matching offered
  rw [file, searchFiles_narrow, List.filter_append]
  exact List.append_nil _

theorem matching_folder (folder : query.type = .folder) : matching search db query userId =
    (searchFolders search db query userId).map SearchFolder.narrow := by
  unfold matching offered
  rw [folder, searchFolders_narrow, List.filter_append]
  rfl

/-- The items of a response are a page of the matching items. -/
theorem execute_items : (execute search locale db query userId order).items =
    (searchPage locale query order (matching search db query userId)).map (joinRow locale db) := by
  unfold execute
  cases type : query.type with
  | all => simp [matching_all type]
  | file => simp [matching_file type]
  | folder => simp [matching_folder type]

theorem execute_total : (execute search locale db query userId order).pagination.total =
    Int32.ofNat (matching search db query userId).length := by
  unfold execute
  cases type : query.type with
  | all => simp [matching_all type]
  | file => simp [matching_file type]
  | folder => simp [matching_folder type]

variable (locale) in
theorem joinRow_row {row : SearchRow} (present : row ∈ offered db query userId) :
    (joinRow locale db row).id = row.id ∧ (joinRow locale db row).name = row.name ∧
      (joinRow locale db row).type = row.type := by
  have type : row.type = "file" ∨ row.type = "folder" := by
    rcases List.mem_append.mp present with file | folder
    · left
      split at file
      · cases file
      · obtain ⟨file, -, rfl⟩ := List.mem_map.mp file
        rfl
    · right
      split at folder
      · cases folder
      · obtain ⟨folder, -, rfl⟩ := List.mem_map.mp folder
        rfl
  unfold joinRow
  rcases type with file | folder
  · rw [if_pos file]
    exact ⟨rfl, rfl, file.symm⟩
  · rw [if_neg (by rw [folder]; decide)]
    exact ⟨rfl, rfl, folder.symm⟩

theorem mem_searchPage {rows : List SearchRow} {row : SearchRow} (present : row ∈ searchPage locale query order rows) :
    row ∈ rows :=
  (order.perm rows).mem_iff.mp (List.mem_of_mem_drop (List.mem_of_mem_take present))

/-- Each row is on a page, and the number of the page fits into its type. -/
theorem exists_searchPage {rows : List SearchRow} {row : SearchRow} (present : row ∈ rows)
    (few : rows.length < 2147483648) (positive : 1 ≤ query.pageSize.toInt) :
    ∃ page : Int32, 1 ≤ page.toInt ∧ row ∈ searchPage locale { query with page := page } order rows := by
  have sorted : row ∈ order.sort rows := (order.perm rows).mem_iff.mpr present
  obtain ⟨index, inside, rfl⟩ := List.mem_iff_getElem.mp sorted
  have short : index < rows.length := by rwa [(order.perm rows).length_eq] at inside
  obtain ⟨size, same⟩ := Int.eq_ofNat_of_zero_le (Int.le_trans Int.one_nonneg positive)
  have division := Nat.div_add_mod index size
  have rest := Nat.mod_lt index (show 0 < size by omega)
  have below : index / size ≤ index := Nat.div_le_self _ _
  generalize index / size = before at division below
  have number : (Int32.ofNat (before + 1)).toInt = (before + 1 : Nat) := Int32.toInt_ofNat_of_lt (by omega)
  refine ⟨Int32.ofNat (before + 1), ?_, ?_⟩
  · rw [number]
    omega
  · have place : SearchQueryParams.offset { query with page := Int32.ofNat (before + 1) } = before * size := by
      unfold SearchQueryParams.offset
      rw [number, same, Int.natCast_succ, Int.add_sub_cancel]
      exact Int.toNat_natCast _
    unfold searchPage
    rw [place, same, Int.toNat_natCast]
    rw [Nat.mul_comm] at division
    exact mem_cut_of_getElem? (by omega) (by omega) (List.getElem?_eq_getElem inside)

end Pages

section Orders

variable {locale : Locale}

theorem searchOrder_trans (lawful : Std.TransCmp locale.collation) (type : ItemFilter) :
    Std.TransCmp (searchOrder locale type) := by
  have types : Std.TransCmp fun first second : SearchRow =>
      if type = .all then locale.collation first.type second.type else .eq := by
    by_cases all : type = .all
    · simp only [if_pos all]
      exact transCmp_comap lawful SearchRow.type
    · simp only [if_neg all]
      exact transCmp_eq
  have ids : Std.TransCmp fun first second : SearchRow => compare first.id second.id :=
    transCmp_comap inferInstance SearchRow.id
  exact transCmp_then (transCmp_comap lawful SearchRow.name) (transCmp_then types ids)

end Orders

section Agreement

variable {search : TextSearch} {locale : Locale} {db : SearchDb} {query : SearchQueryParams} {userId : UInt64}
variable {order : Arrangement (AtMost (searchOrder locale query.type))}

/-- A page of the request shows the item. -/
def Shown (search : TextSearch) (locale : Locale) (db : SearchDb) (query : SearchQueryParams) (userId : UInt64)
    (order : Arrangement (AtMost (searchOrder locale query.type))) (row : SearchRow) : Prop :=
  ∃ page : Int32, 1 ≤ page.toInt ∧ ∃ item ∈ (execute search locale db { query with page := page } userId order).items,
    item.id = row.id ∧ item.name = row.name ∧ item.type = row.type

/-- The pages show each item that the plain search would find, a full-text match has a word of the keyword,
and the total counts the matches. -/
structure SearchRight (search : TextSearch) (locale : Locale) (db : SearchDb) (query : SearchQueryParams)
    (userId : UInt64) (order : Arrangement (AtMost (searchOrder locale query.type))) : Prop where
  complete : ∀ row ∈ offered db query userId, likeMatches query.keyword row.name.toList = true →
    Shown search locale db query userId order row
  sound : isFulltextEligible query.keyword = true → ∀ row, Shown search locale db query userId order row →
    ∃ word ∈ wordsOf ' ' query.keyword, word.map search.fold <:+: row.name.toList.map search.fold
  total : ∀ page : Int32, (execute search locale db { query with page := page } userId order).pagination.total.toInt =
    (matching search db query userId).length

theorem matching_of_shown {row : SearchRow} (shown : Shown search locale db query userId order row) :
    row ∈ matching search db query userId := by
  obtain ⟨page, -, item, listed, id, name, type⟩ := shown
  rw [execute_items] at listed
  obtain ⟨found, paged, rfl⟩ := List.mem_map.mp listed
  have present : found ∈ matching search db query userId := mem_searchPage paged
  obtain ⟨sameId, sameName, sameType⟩ := joinRow_row locale (List.mem_filter.mp present).1
  have same : found = row := by
    cases found
    cases row
    simp only [SearchRow.mk.injEq]
    exact ⟨sameId.symm.trans id, sameName.symm.trans name, sameType.symm.trans type⟩
  exact same ▸ present

theorem shown_of_matching {row : SearchRow} (present : row ∈ matching search db query userId)
    (few : (matching search db query userId).length < 2147483648) (positive : 1 ≤ query.pageSize.toInt) :
    Shown search locale db query userId order row := by
  obtain ⟨page, first, paged⟩ := exists_searchPage present few positive
  obtain ⟨id, name, type⟩ := joinRow_row locale (List.mem_filter.mp present).1
  refine ⟨page, first, joinRow locale db row, ?_, id, name, type⟩
  rw [execute_items]
  exact List.mem_map_of_mem paged

theorem total_iff {count : Nat} : (Int32.ofNat count).toInt = count ↔ count < 2147483648 := by
  constructor
  · intro same
    have limit := (Int32.ofNat count).toInt_lt
    omega
  · exact Int32.toInt_ofNat_of_lt

/-- Each offered name that contains a keyword of the full-text search has a whole word of it. -/
def KeepsWords (search : TextSearch) (db : SearchDb) (query : SearchQueryParams) (userId : UInt64) : Prop :=
  isFulltextEligible query.keyword = true → ∀ row ∈ offered db query userId, query.keyword <:+: row.name.toList →
    ∃ word ∈ wordsOf ' ' query.keyword, word.map search.fold ∈ search.lexemes row.name.toList

/-- On one table the searches agree when words are kept and the total fits. -/
theorem searchRight_iff (positive : 1 ≤ query.pageSize.toInt) : SearchRight search locale db query userId order ↔
    KeepsWords search db query userId ∧ (matching search db query userId).length < 2147483648 := by
  have totals : ∀ page : Int32, (execute search locale db { query with page := page } userId order).pagination.total =
      Int32.ofNat (matching search db query userId).length := fun page => execute_total
  constructor
  · intro right
    have few := right.total query.page
    rw [totals, total_iff] at few
    refine ⟨?_, few⟩
    intro eligible row listed contained
    have shown := right.complete row listed ((likeMatches_of_eligible eligible _).mpr contained)
    have matched := (List.mem_filter.mp (matching_of_shown shown)).2
    rw [searchMatches, if_pos eligible] at matched
    exact (fulltextMatches_iff search _ _).mp matched
  · rintro ⟨keeps, few⟩
    constructor
    · intro row listed found
      refine shown_of_matching (List.mem_filter.mpr ⟨listed, ?_⟩) few positive
      unfold searchMatches
      by_cases eligible : isFulltextEligible query.keyword = true
      · rw [if_pos eligible]
        exact (fulltextMatches_iff search _ _).mpr
          (keeps eligible row listed ((likeMatches_of_eligible eligible _).mp found))
      · rw [if_neg eligible]
        exact found
    · intro eligible row shown
      have matched := (List.mem_filter.mp (matching_of_shown shown)).2
      rw [searchMatches, if_pos eligible] at matched
      obtain ⟨word, listed, lexeme⟩ := (fulltextMatches_iff search _ _).mp matched
      exact ⟨word, listed, search.inside _ _ lexeme⟩
    · intro page
      rw [totals]
      exact total_iff.mpr few

end Agreement

section Keywords

variable {search : TextSearch} {locale : Locale} {query : SearchQueryParams}

/-- Names never have the characters of tags. -/
structure Untagged (db : SearchDb) : Prop where
  files : ∀ file ∈ db.files.rows, '<' ∉ file.name.toList
  folders : ∀ folder ∈ db.folders.rows, '<' ∉ folder.name.toList

theorem Untagged.offered {db : SearchDb} (untagged : Untagged db) {userId : UInt64} {row : SearchRow}
    (listed : row ∈ offered db query userId) : '<' ∉ row.name.toList := by
  rcases List.mem_append.mp listed with file | folder
  · split at file
    · cases file
    · obtain ⟨stored, present, rfl⟩ := List.mem_map.mp file
      exact untagged.files stored (List.mem_filter.mp present).1
  · split at folder
    · cases folder
    · obtain ⟨stored, present, rfl⟩ := List.mem_map.mp folder
      exact untagged.folders stored (List.mem_filter.mp present).1

/-- One item of the requested type in the requested folder. -/
def single (query : SearchQueryParams) (name : String) : SearchDb :=
  if query.type = .folder then
    ⟨⟨[], List.nodup_nil⟩, ⟨[⟨⟨1, 1, query.folderId.getD 0, name, 0, 0, 0⟩, name⟩], List.nodup_singleton _⟩, []⟩
  else
    ⟨⟨[⟨⟨1, 1, 1, query.folderId.getD 0, name, 0, none, 0, 0⟩, name⟩], List.nodup_singleton _⟩, ⟨[], List.nodup_nil⟩, []⟩

theorem inFolder_getD (query : SearchQueryParams) : inFolder query (query.folderId.getD 0) = true := by
  unfold inFolder
  cases query.folderId <;> simp

theorem offered_single (query : SearchQueryParams) (name : String) :
    ∃ row : SearchRow, offered (single query name) query 1 = [row] ∧ row.name = name := by
  have inside := inFolder_getD query
  unfold offered single
  cases query.type with
  | all => exact ⟨⟨1, name, "file"⟩, by simp [inside, SearchFile.narrow], rfl⟩
  | file => exact ⟨⟨1, name, "file"⟩, by simp [inside, SearchFile.narrow], rfl⟩
  | folder => exact ⟨⟨1, name, "folder"⟩, by simp [inside, SearchFolder.narrow], rfl⟩

theorem untagged_single (query : SearchQueryParams) {name : String} (plain : '<' ∉ name.toList) :
    Untagged (single query name) := by
  unfold single
  split
  · exact ⟨fun _ none => absurd none List.not_mem_nil, fun folder one => by
      rw [List.mem_singleton.mp one]
      exact plain⟩
  · exact ⟨fun file one => by
      rw [List.mem_singleton.mp one]
      exact plain, fun _ none => absurd none List.not_mem_nil⟩

variable (search) in
/-- A keyword is safe for the full-text search exactly when it has an inner word. -/
theorem keepsWords_iff (kept : ∀ word ∈ wordsOf ' ' query.keyword, readsNumber word = false) : (∀ db userId, Untagged db → (matching search db query userId).length < 2147483648 →
      KeepsWords search db query userId) ↔ (isFulltextEligible query.keyword = true → HasInnerWord query.keyword) := by
  constructor
  · intro keeps eligible
    by_contra absent
    have plain := plain_of_eligible eligible
    obtain ⟨left, right, letter, digit, whole, differs⟩ := exists_name_without_words search absent kept
    have around : ∀ character ∈ left :: (query.keyword ++ [right]), character.isAlphanum ∨ character = ' ' := by
      intro character present
      rcases List.mem_cons.mp present with rfl | present
      · exact .inl letter
      · rcases List.mem_append.mp present with inside | last
        · exact plain character inside
        · exact .inl (List.mem_singleton.mp last ▸ digit)
    have name : (String.ofList (left :: (query.keyword ++ [right]))).toList = left :: (query.keyword ++ [right]) :=
      String.toList_ofList
    have untagged : '<' ∉ (String.ofList (left :: (query.keyword ++ [right]))).toList := by
      rw [name]
      intro tag
      exact not_special (around '<' tag) '<' (by decide) (by decide) rfl
    obtain ⟨row, only, same⟩ := offered_single query (String.ofList (left :: (query.keyword ++ [right])))
    have few : (matching search (single query (String.ofList (left :: (query.keyword ++ [right])))) query 1).length <
        2147483648 := by
      have short := List.length_filter_le (fun row : SearchRow => searchMatches search query.keyword row.name.toList)
        (offered (single query (String.ofList (left :: (query.keyword ++ [right])))) query 1)
      rw [only, List.length_singleton] at short
      unfold matching
      rw [only]
      exact short.trans_lt (by decide)
    obtain ⟨word, listed, lexeme⟩ := keeps _ 1 (untagged_single query untagged) few eligible row
      (by rw [only]; exact List.mem_singleton_self row)
      (by rw [same, name]; exact ⟨[left], [right], by simp⟩)
    rw [same, name] at lexeme
    obtain ⟨other, present, equal⟩ := (search.plain _ around whole _).mp lexeme
    exact differs word listed other present equal
  · intro inner db userId untagged _ eligible row listed contained
    exact (inner eligible).lexeme kept (plain_of_eligible eligible) (untagged.offered listed) contained

/-- An accepted request has pages of one row at least. -/
theorem pageSize_of_accepted {getParameter : String → List Char}
    (accepted : SearchQueryParams.fromRequest getParameter = .value query) : 1 ≤ query.pageSize.toInt := by
  unfold SearchQueryParams.fromRequest at accepted
  dsimp only at accepted
  split at accepted
  · cases accepted
  · split at accepted
    · cases accepted
    · split at accepted
      · cases accepted
      · obtain ⟨type, -, accepted⟩ := Parsed.bind_eq_value accepted
        obtain ⟨folderId, -, accepted⟩ := Parsed.bind_eq_value accepted
        obtain ⟨page, -, accepted⟩ := Parsed.bind_eq_value accepted
        obtain ⟨pageSize, read, accepted⟩ := Parsed.bind_eq_value accepted
        obtain rfl := Parsed.value.inj accepted
        cases pageSize with
        | none => exact (by decide : 1 ≤ (Int32.ofInt 20).toInt)
        | some size =>
            obtain ⟨least, most⟩ := queryPositiveInt_bounds read
            have kept : (Int32.ofInt size).toInt = size := Int32.toInt_ofInt_of_le (by omega) (by omega)
            exact le_of_le_of_eq least kept.symm

/-- On a table the searches agree exactly when each name with the keyword has a whole word of it and the total
fits. A keyword without numbers agrees on all tables exactly when it has a word between two of its blanks. -/
theorem search_right_iff (search : TextSearch) (locale : Locale) {getParameter : String → List Char}
    (order : Arrangement (AtMost (searchOrder locale query.type)))
    (accepted : SearchQueryParams.fromRequest getParameter = .value query) :
    (∀ db userId, SearchRight search locale db query userId order ↔
      KeepsWords search db query userId ∧ (matching search db query userId).length < 2147483648) ∧
    ((∀ word ∈ wordsOf ' ' query.keyword, readsNumber word = false) →
      ((∀ db userId, Untagged db → (matching search db query userId).length < 2147483648 →
        SearchRight search locale db query userId order) ↔
          (isFulltextEligible query.keyword = true → HasInnerWord query.keyword))) := by
  have positive := pageSize_of_accepted accepted
  refine ⟨fun db userId => searchRight_iff positive, ?_⟩
  intro kept
  rw [← keepsWords_iff search kept]
  constructor
  · intro right db userId untagged few
    exact ((searchRight_iff positive).mp (right db userId untagged few)).1
  · intro keeps db userId untagged few
    exact (searchRight_iff positive).mpr ⟨keeps db userId untagged few, few⟩

end Keywords

section Examples

theorem isUpper_eq (character : Char) :
    character.isUpper = decide (character.val ≥ 'A'.val ∧ character.val ≤ 'Z'.val) := rfl

theorem toLower_of_isLower {character : Char} (lower : character.isLower) : character.toLower = character := by
  have small : ¬character.isUpper := by
    unfold Char.isLower at lower
    rw [isUpper_eq]
    simp only [Bool.and_eq_true, decide_eq_true_eq, not_and, ge_iff_le, UInt32.le_iff_toNat_le] at lower ⊢
    intro _ high
    have low := lower.1
    change 97 ≤ _ at low
    change _ ≤ 90 at high
    omega
  simp only [isUpper_eq, decide_eq_true_eq] at small
  exact dif_neg small

/-- A text search whose lexemes are the words between blanks in lower case. -/
def blankSearch : TextSearch where
  fold := Char.toLower
  lexemes := fun text => (wordsOf ' ' text).map fun word => word.map Char.toLower
  lower := fun _ lower => toLower_of_isLower lower
  inside := by
    intro text lexeme present
    obtain ⟨word, listed, rfl⟩ := List.mem_map.mp present
    obtain ⟨-, -, before, after, rfl, -⟩ := exists_of_mem_wordsOf listed
    exact List.IsInfix.map _ ⟨before, after, List.append_assoc _ _ _⟩
  plain := by
    intro text _ _ lexeme
    simp only [List.mem_map, eq_comm]
  between := by
    intro before word after _ long letters _
    refine List.mem_map_of_mem ?_
    have whole : ' ' ∉ word := fun blank => absurd (letters ' ' blank) (by decide)
    rw [wordsOf_append, wordsOf_append, wordsOf_single whole long]
    simp

def textLocale : Locale := ⟨compare, toString⟩

instance : Std.TransCmp (searchOrder textLocale .all) := searchOrder_trans (inferInstanceAs (Std.TransCmp compare)) .all

def textOrder : Arrangement (AtMost (searchOrder textLocale .all)) := Arrangement.stable _

/-- The parameters of a request that has a keyword alone. -/
def keywordOnly (keyword : String) (name : String) : List Char := if name = "keyword" then keyword.toList else []

/-- The keyword of a request that is accepted. -/
theorem search_right_of_report : SearchRight blankSearch textLocale
    (single ⟨"report".toList, .all, none, 1, 20⟩ "annual report") ⟨"report".toList, .all, none, 1, 20⟩ 1 textOrder := by
  have accepted : SearchQueryParams.fromRequest (keywordOnly "report") =
      .value ⟨"report".toList, .all, none, 1, 20⟩ := by
    rfl
  refine ((search_right_iff blankSearch textLocale textOrder accepted).1 _ 1).mpr ⟨?_, ?_⟩
  · intro _ row listed _
    obtain ⟨only, same, name⟩ := offered_single ⟨"report".toList, .all, none, 1, 20⟩ "annual report"
    rw [same] at listed
    obtain rfl := List.mem_singleton.mp listed
    rw [name]
    exact ⟨"report".toList, by decide, by decide⟩
  · decide

/-- The full-text search loses a file that the plain search finds. -/
theorem search_not_right : ¬SearchRight blankSearch textLocale
    (single ⟨"report".toList, .all, none, 1, 20⟩ "reports.txt") ⟨"report".toList, .all, none, 1, 20⟩ 1 textOrder := by
  intro right
  obtain ⟨keeps, -⟩ := (searchRight_iff (by decide)).mp right
  obtain ⟨only, same, name⟩ := offered_single ⟨"report".toList, .all, none, 1, 20⟩ "reports.txt"
  obtain ⟨word, listed, lexeme⟩ := keeps (by decide) only (by rw [same]; exact List.mem_singleton_self only)
    (by rw [name]; exact ⟨[], "s.txt".toList, rfl⟩)
  rw [name] at lexeme
  have missing : ∀ word ∈ wordsOf ' ' "report".toList,
      word.map Char.toLower ∉ blankSearch.lexemes "reports.txt".toList := by decide
  exact missing word listed lexeme

end Examples

end DiskServer.Files
