import Mathlib.Data.List.Infix

/-
This file gives the lexical structure of PostgreSQL statements and what a text does to the literal that
it is put into.
-/

namespace DiskServer.Library

section Lexer

/-- The text of a literal with escapes is kept as it is written. -/
inductive SqlToken where
  | word (text : List Char)
  | literal (escapes : Bool) (text : List Char)
  | quoted (text : List Char)
  | parameter (digits : List Char)
  | symbol (character : Char)
  deriving Repr, DecidableEq

/-- What the lexer is within. A literal that was closed may go on after a line break. -/
inductive LexMode where
  | between
  | word (text : List Char)
  | literal (escapes : Bool) (text : List Char)
  | escaped (text : List Char)
  | closing (escapes : Bool) (text : List Char)
  | afterLiteral (escapes : Bool) (text : List Char) (newline : Bool)
  | afterDash (escapes : Bool) (text : List Char) (newline : Bool)
  | afterComment (escapes : Bool) (text : List Char)
  | quoted (text : List Char)
  | quotedClosing (text : List Char)
  | dash
  | lineComment
  | slash
  | blockComment (depth : Nat) (last : Char)
  | dollar
  | dollarTag (tag : List Char)
  | dollarBody (tag text : List Char)
  | parameter (digits : List Char)
  deriving Repr, DecidableEq

/-- The tokens so far, with the newest first. -/
structure LexState where
  tokens : List SqlToken
  mode : LexMode
  deriving Repr, DecidableEq

def isLineBreak (character : Char) : Bool := character = '\n' || character = '\r'

def isBlank (character : Char) : Bool :=
  character = ' ' || character = '\t' || character = Char.ofNat 11 || character = Char.ofNat 12

def startsWord (character : Char) : Bool :=
  character.isAlpha || character = '_' || 128 ≤ character.toNat

/-- Numbers are lexed as words. -/
def continuesWord (character : Char) : Bool := startsWord character || character.isDigit

namespace LexState

/-- A character outside of all tokens. -/
def between (tokens : List SqlToken) (character : Char) : LexState :=
  if isBlank character || isLineBreak character then ⟨tokens, .between⟩
  else if continuesWord character then ⟨tokens, .word [character]⟩
  else if character = '\'' then ⟨tokens, .literal false []⟩
  else if character = '"' then ⟨tokens, .quoted []⟩
  else if character = '-' then ⟨tokens, .dash⟩
  else if character = '/' then ⟨tokens, .slash⟩
  else if character = '$' then ⟨tokens, .dollar⟩
  else ⟨.symbol character :: tokens, .between⟩

/-- A character behind a literal that a line break may continue. -/
def behind (tokens : List SqlToken) (escapes : Bool) (text : List Char) (newline : Bool)
    (character : Char) : LexState :=
  if isLineBreak character then ⟨tokens, .afterLiteral escapes text true⟩
  else if isBlank character then ⟨tokens, .afterLiteral escapes text newline⟩
  else if character = '-' then ⟨tokens, .afterDash escapes text newline⟩
  else if character = '\'' && newline then ⟨tokens, .literal escapes text⟩
  else between (.literal escapes text :: tokens) character

def step : LexState → Char → LexState
  | ⟨tokens, .between⟩, character => between tokens character
  | ⟨tokens, .word text⟩, character =>
      if continuesWord character || character = '$' then ⟨tokens, .word (text ++ [character])⟩
      else if character = '\'' && (text = ['E'] || text = ['e']) then ⟨tokens, .literal true []⟩
      else between (.word text :: tokens) character
  | ⟨tokens, .literal escapes text⟩, character =>
      if character = '\'' then ⟨tokens, .closing escapes text⟩
      else if character = '\\' && escapes then ⟨tokens, .escaped (text ++ [character])⟩
      else ⟨tokens, .literal escapes (text ++ [character])⟩
  | ⟨tokens, .escaped text⟩, character => ⟨tokens, .literal true (text ++ [character])⟩
  | ⟨tokens, .closing escapes text⟩, character =>
      if character = '\'' then ⟨tokens, .literal escapes (text ++ [character])⟩
      else behind tokens escapes text false character
  | ⟨tokens, .afterLiteral escapes text newline⟩, character =>
      behind tokens escapes text newline character
  | ⟨tokens, .afterDash escapes text _⟩, character =>
      if character = '-' then ⟨tokens, .afterComment escapes text⟩
      else between (.symbol '-' :: .literal escapes text :: tokens) character
  | ⟨tokens, .afterComment escapes text⟩, character =>
      if isLineBreak character then ⟨tokens, .afterLiteral escapes text true⟩
      else ⟨tokens, .afterComment escapes text⟩
  | ⟨tokens, .quoted text⟩, character =>
      if character = '"' then ⟨tokens, .quotedClosing text⟩
      else ⟨tokens, .quoted (text ++ [character])⟩
  | ⟨tokens, .quotedClosing text⟩, character =>
      if character = '"' then ⟨tokens, .quoted (text ++ [character])⟩
      else between (.quoted text :: tokens) character
  | ⟨tokens, .dash⟩, character =>
      if character = '-' then ⟨tokens, .lineComment⟩ else between (.symbol '-' :: tokens) character
  | ⟨tokens, .lineComment⟩, character =>
      if isLineBreak character then ⟨tokens, .between⟩ else ⟨tokens, .lineComment⟩
  | ⟨tokens, .slash⟩, character =>
      if character = '*' then ⟨tokens, .blockComment 0 ' '⟩
      else between (.symbol '/' :: tokens) character
  | ⟨tokens, .blockComment depth last⟩, character =>
      if last = '*' && character = '/' then
        match depth with
        | 0 => ⟨tokens, .between⟩
        | outer + 1 => ⟨tokens, .blockComment outer ' '⟩
      else if last = '/' && character = '*' then ⟨tokens, .blockComment (depth + 1) ' '⟩
      else ⟨tokens, .blockComment depth character⟩
  | ⟨tokens, .dollar⟩, character =>
      if character.isDigit then ⟨tokens, .parameter [character]⟩
      else if character = '$' then ⟨tokens, .dollarBody [] []⟩
      else if startsWord character then ⟨tokens, .dollarTag [character]⟩
      else between (.symbol '$' :: tokens) character
  | ⟨tokens, .dollarTag tag⟩, character =>
      if character = '$' then ⟨tokens, .dollarBody tag []⟩
      else if continuesWord character then ⟨tokens, .dollarTag (tag ++ [character])⟩
      else between (.word tag :: .symbol '$' :: tokens) character
  | ⟨tokens, .dollarBody tag text⟩, character =>
      if character = '$' && ('$' :: tag).isSuffixOf text then
        ⟨.literal false (text.take (text.length - tag.length - 1)) :: tokens, .between⟩
      else ⟨tokens, .dollarBody tag (text ++ [character])⟩
  | ⟨tokens, .parameter digits⟩, character =>
      if character.isDigit then ⟨tokens, .parameter (digits ++ [character])⟩
      else between (.parameter digits :: tokens) character

/-- The text ends here, which it may not do within a literal or a comment. -/
def finish : LexState → Option (List SqlToken)
  | ⟨tokens, .between⟩ => some tokens.reverse
  | ⟨tokens, .word text⟩ => some (.word text :: tokens).reverse
  | ⟨_, .literal _ _⟩ => none
  | ⟨_, .escaped _⟩ => none
  | ⟨tokens, .closing escapes text⟩ => some (.literal escapes text :: tokens).reverse
  | ⟨tokens, .afterLiteral escapes text _⟩ => some (.literal escapes text :: tokens).reverse
  | ⟨tokens, .afterDash escapes text _⟩ =>
      some (.symbol '-' :: .literal escapes text :: tokens).reverse
  | ⟨tokens, .afterComment escapes text⟩ => some (.literal escapes text :: tokens).reverse
  | ⟨_, .quoted _⟩ => none
  | ⟨tokens, .quotedClosing text⟩ => some (.quoted text :: tokens).reverse
  | ⟨tokens, .dash⟩ => some (.symbol '-' :: tokens).reverse
  | ⟨tokens, .lineComment⟩ => some tokens.reverse
  | ⟨tokens, .slash⟩ => some (.symbol '/' :: tokens).reverse
  | ⟨_, .blockComment _ _⟩ => none
  | ⟨tokens, .dollar⟩ => some (.symbol '$' :: tokens).reverse
  | ⟨tokens, .dollarTag tag⟩ => some (.word tag :: .symbol '$' :: tokens).reverse
  | ⟨_, .dollarBody _ _⟩ => none
  | ⟨tokens, .parameter digits⟩ => some (.parameter digits :: tokens).reverse

def run (state : LexState) (text : List Char) : LexState := text.foldl step state

end LexState

def lexSql (text : List Char) : Option (List SqlToken) := (LexState.run ⟨[], .between⟩ text).finish

end Lexer

section Plain

variable {state : LexState} {tokens before : List SqlToken} {text value : List Char}

theorem run_append (state : LexState) (first second : List Char) :
    state.run (first ++ second) = (state.run first).run second := List.foldl_append

/-- A value without quotes stays within the literal that it is put into. -/
theorem run_plain (plain : '\'' ∉ value) :
    LexState.run ⟨tokens, .literal false text⟩ value = ⟨tokens, .literal false (text ++ value)⟩ := by
  induction value generalizing text with
  | nil => rw [List.append_nil]; rfl
  | cons character rest ih =>
      rw [List.mem_cons, not_or] at plain
      have first : LexState.step ⟨tokens, .literal false text⟩ character =
          ⟨tokens, .literal false (text ++ [character])⟩ := by
        simp [LexState.step, Ne.symm plain.1]
      have rests : LexState.run ⟨tokens, .literal false (text ++ [character])⟩ rest =
          ⟨tokens, .literal false (text ++ [character] ++ rest)⟩ := ih plain.2
      rw [List.append_assoc, List.singleton_append] at rests
      exact (congrArg (fun next : LexState => next.run rest) first).trans rests

theorem run_word {word : List Char} (plain : ∀ character ∈ value, continuesWord character = true) :
    LexState.run ⟨tokens, .word word⟩ value = ⟨tokens, .word (word ++ value)⟩ := by
  induction value generalizing word with
  | nil => rw [List.append_nil]; rfl
  | cons character rest ih =>
      obtain ⟨first, others⟩ := List.forall_mem_cons.mp plain
      have step : LexState.step ⟨tokens, .word word⟩ character =
          ⟨tokens, .word (word ++ [character])⟩ := by simp [LexState.step, first]
      have rests : LexState.run ⟨tokens, .word (word ++ [character])⟩ rest =
          ⟨tokens, .word (word ++ [character] ++ rest)⟩ := ih others
      rw [List.append_assoc, List.singleton_append] at rests
      exact (congrArg (fun next : LexState => next.run rest) step).trans rests

/-- The state is between two tokens, whether or not the last one may still go on. -/
def Settled (tokens : List SqlToken) (state : LexState) : Prop :=
  state.finish = some tokens.reverse ∧
    ∀ character, continuesWord character = true →
      (state.step ' ').step character = ⟨tokens, .word [character]⟩

theorem ne_of_continuesWord {character special : Char} (continues : continuesWord character = true)
    (other : continuesWord special = false) : character ≠ special := by
  rintro rfl
  rw [other] at continues
  cases continues

theorem not_isBlank {character : Char} (continues : continuesWord character = true) :
    isBlank character = false := by
  have other : ∀ special, continuesWord special = false → character ≠ special :=
    fun _ none => ne_of_continuesWord continues none
  simp [isBlank, other ' ' (by decide), other '\t' (by decide), other (Char.ofNat 11) (by decide),
    other (Char.ofNat 12) (by decide)]

theorem not_isLineBreak {character : Char} (continues : continuesWord character = true) :
    isLineBreak character = false := by
  have other : ∀ special, continuesWord special = false → character ≠ special :=
    fun _ none => ne_of_continuesWord continues none
  simp [isLineBreak, other '\n' (by decide), other '\r' (by decide)]

theorem between_word {character : Char} (continues : continuesWord character = true) :
    LexState.between tokens character = ⟨tokens, .word [character]⟩ := by
  simp [LexState.between, not_isBlank continues, not_isLineBreak continues, continues]

theorem settled_word {word : List Char} : Settled (.word word :: tokens) ⟨tokens, .word word⟩ :=
  ⟨rfl, fun _ continues => between_word continues⟩

/-- A literal that was closed is settled when no line break follows. -/
theorem settled_closing : Settled (.literal false text :: tokens) ⟨tokens, .closing false text⟩ := by
  refine ⟨rfl, fun character continues => ?_⟩
  have ended : LexState.behind tokens false text false character =
      LexState.between (.literal false text :: tokens) character := by
    simp [LexState.behind, not_isBlank continues, not_isLineBreak continues,
      ne_of_continuesWord continues (show continuesWord '-' = false by decide)]
  exact ended.trans (between_word continues)

end Plain

section Altered

variable {state : LexState} {tokens before : List SqlToken} {bound : Nat}

theorem tokens_between (tokens : List SqlToken) (character : Char) :
    tokens <:+ (LexState.between tokens character).tokens := by
  unfold LexState.between
  repeat' split
  all_goals first | exact List.suffix_rfl | exact List.suffix_cons _ _

theorem tokens_behind (tokens : List SqlToken) (escapes newline : Bool) (text : List Char)
    (character : Char) : tokens <:+ (LexState.behind tokens escapes text newline character).tokens := by
  unfold LexState.behind
  repeat' split
  all_goals first
    | exact List.suffix_rfl
    | exact (List.suffix_cons _ _).trans (tokens_between _ _)

/-- A token that was lexed stays. -/
theorem tokens_step (state : LexState) (character : Char) :
    state.tokens <:+ (state.step character).tokens := by
  obtain ⟨tokens, mode⟩ := state
  cases mode <;> simp only [LexState.step] <;> repeat' split
  all_goals first
    | exact List.suffix_rfl
    | exact List.suffix_cons _ _
    | exact tokens_between _ _
    | exact tokens_behind _ _ _ _ _
    | exact (List.suffix_cons _ _).trans (tokens_between _ _)
    | exact ((List.suffix_cons _ _).trans (List.suffix_cons _ _)).trans (tokens_between _ _)

theorem tokens_run (state : LexState) (text : List Char) : state.tokens <:+ (state.run text).tokens := by
  induction text generalizing state with
  | nil => exact List.suffix_rfl
  | cons character rest ih => exact (tokens_step state character).trans (ih _)

theorem tokens_finish {all : List SqlToken} (finished : state.finish = some all) :
    state.tokens <:+ all.reverse := by
  obtain ⟨tokens, mode⟩ := state
  cases mode <;> simp only [LexState.finish, Option.some.injEq, reduceCtorEq] at finished <;>
    subst finished <;> rw [List.reverse_reverse]
  all_goals first
    | exact List.suffix_rfl
    | exact List.suffix_cons _ _
    | exact (List.suffix_cons _ _).trans (List.suffix_cons _ _)

/-- The text of the plain literal that may still grow. -/
def pendingLiteral : LexMode → Option (List Char)
  | .literal false text => some text
  | .closing false text => some text
  | .afterLiteral false text _ => some text
  | .afterDash false text _ => some text
  | .afterComment false text => some text
  | _ => none

theorem pendingLiteral_cases {mode : LexMode} {text : List Char}
    (pending : pendingLiteral mode = some text) :
    mode = .literal false text ∨ mode = .closing false text ∨
      (∃ newline, mode = .afterLiteral false text newline) ∨
      (∃ newline, mode = .afterDash false text newline) ∨ mode = .afterComment false text := by
  unfold pendingLiteral at pending
  split at pending <;> cases pending
  · exact .inl rfl
  · exact .inr (.inl rfl)
  · exact .inr (.inr (.inl ⟨_, rfl⟩))
  · exact .inr (.inr (.inr (.inl ⟨_, rfl⟩)))
  · exact .inr (.inr (.inr (.inr rfl)))

/-- Behind the given tokens there is a plain literal that has at most so many characters. -/
def Done (before : List SqlToken) (bound : Nat) (state : LexState) : Prop :=
  ∃ text : List Char, text.length ≤ bound ∧ (.literal false text :: before) <:+ state.tokens

/-- The literal behind the given tokens has at most so many characters so far. -/
def Within (before : List SqlToken) (bound : Nat) (state : LexState) : Prop :=
  (state.tokens = before ∧ ∃ text, pendingLiteral state.mode = some text ∧ text.length ≤ bound) ∨
    Done before bound state

theorem Done.step (done : Done before bound state) (character : Char) :
    Done before bound (state.step character) := by
  obtain ⟨text, short, inside⟩ := done
  exact ⟨text, short, inside.trans (tokens_step state character)⟩

theorem Done.run (done : Done before bound state) (text : List Char) :
    Done before bound (state.run text) := by
  obtain ⟨found, short, inside⟩ := done
  exact ⟨found, short, inside.trans (tokens_run state text)⟩

theorem Done.mono {more : Nat} (done : Done before bound state) (less : bound ≤ more) :
    Done before more state := by
  obtain ⟨text, short, inside⟩ := done
  exact ⟨text, Nat.le_trans short less, inside⟩

theorem Within.mono {more : Nat} (within : Within before bound state) (less : bound ≤ more) :
    Within before more state := by
  rcases within with ⟨same, text, pending, short⟩ | done
  · exact .inl ⟨same, text, pending, Nat.le_trans short less⟩
  · exact .inr (done.mono less)

theorem within_behind {text : List Char} (short : text.length ≤ bound) (newline : Bool)
    (character : Char) : Within before bound (LexState.behind before false text newline character) := by
  unfold LexState.behind
  repeat' split
  · exact .inl ⟨rfl, text, rfl, short⟩
  · exact .inl ⟨rfl, text, rfl, short⟩
  · exact .inl ⟨rfl, text, rfl, short⟩
  · exact .inl ⟨rfl, text, rfl, short⟩
  · exact .inr ⟨text, short, tokens_between _ _⟩

/-- A character makes the literal longer by at most itself. -/
theorem Within.step (within : Within before bound state) (character : Char) :
    Within before (bound + 1) (state.step character) := by
  rcases within with ⟨same, text, pending, short⟩ | done
  · obtain ⟨tokens, mode⟩ := state
    subst same
    have longer : (text ++ [character]).length ≤ bound + 1 := by
      rw [List.length_append]
      exact Nat.succ_le_succ short
    have enough : text.length ≤ bound + 1 := Nat.le_succ_of_le short
    rcases pendingLiteral_cases pending with rfl | rfl | ⟨newline, rfl⟩ | ⟨newline, rfl⟩ | rfl <;>
      simp only [LexState.step]
    · split
      · exact .inl ⟨rfl, text, rfl, enough⟩
      · rw [if_neg (by simp)]
        exact .inl ⟨rfl, _, rfl, longer⟩
    · split
      · exact .inl ⟨rfl, _, rfl, longer⟩
      · exact within_behind enough _ _
    · exact within_behind enough _ _
    · split
      · exact .inl ⟨rfl, text, rfl, enough⟩
      · exact .inr ⟨text, enough, (List.suffix_cons _ _).trans (tokens_between _ _)⟩
    · split
      · exact .inl ⟨rfl, text, rfl, enough⟩
      · exact .inl ⟨rfl, text, rfl, enough⟩
  · exact .inr ((done.step character).mono (Nat.le_succ _))

theorem Within.run (within : Within before bound state) (text : List Char) :
    Within before (bound + text.length) (state.run text) := by
  induction text generalizing state bound with
  | nil => exact within
  | cons character rest ih =>
      have last := ih (within.step character)
      rw [List.length_cons, Nat.add_comm rest.length, ← Nat.add_assoc]
      exact last

/-- A quote inside of a value costs the literal at least this one character. -/
theorem within_quoted {text value : List Char} (quote : '\'' ∈ value) :
    Within before (text.length + value.length - 1)
      (LexState.run ⟨before, .literal false text⟩ value) := by
  obtain ⟨plain, rest, rfl, none⟩ := List.eq_append_cons_of_mem quote
  have closed : LexState.run ⟨before, .literal false text⟩ (plain ++ '\'' :: rest) =
      LexState.run ⟨before, .closing false (text ++ plain)⟩ rest := by
    rw [run_append, run_plain none]
    rfl
  have opened : Within before (text ++ plain).length ⟨before, .closing false (text ++ plain)⟩ :=
    .inl ⟨rfl, _, rfl, Nat.le_refl _⟩
  rw [closed]
  apply (opened.run rest).mono
  simp only [List.length_append, List.length_cons]
  omega

/-- A percent sign goes into an open literal or into a comment behind it, or the literal has ended. -/
theorem Within.percent (within : Within before bound state) :
    (∃ text, state.step '%' = ⟨before, .literal false text⟩ ∧ text.length ≤ bound + 1) ∨
      (∃ text, state.step '%' = ⟨before, .afterComment false text⟩ ∧ text.length ≤ bound) ∨
      Done before bound (state.step '%') := by
  have ended : ∀ newline : Bool, ∀ text : List Char, ∀ tokens,
      LexState.behind tokens false text newline '%' =
        LexState.between (.literal false text :: tokens) '%' := by
    intro newline text tokens
    simp [LexState.behind, isLineBreak, isBlank]
  rcases within with ⟨same, text, pending, short⟩ | done
  · obtain ⟨tokens, mode⟩ := state
    subst same
    rcases pendingLiteral_cases pending with rfl | rfl | ⟨newline, rfl⟩ | ⟨newline, rfl⟩ | rfl
    · refine .inl ⟨text ++ ['%'], by simp [LexState.step], ?_⟩
      rw [List.length_append]
      exact Nat.succ_le_succ short
    · refine .inr (.inr ⟨text, short, ?_⟩)
      change _ <:+ (LexState.behind tokens false text false '%').tokens
      rw [ended]
      exact tokens_between _ _
    · refine .inr (.inr ⟨text, short, ?_⟩)
      change _ <:+ (LexState.behind tokens false text newline '%').tokens
      rw [ended]
      exact tokens_between _ _
    · refine .inr (.inr ⟨text, short, ?_⟩)
      change _ <:+ (LexState.between (.symbol '-' :: .literal false text :: tokens) '%').tokens
      exact (List.suffix_cons _ _).trans (tokens_between _ _)
    · exact .inr (.inl ⟨text, rfl, short⟩)
  · exact .inr (.inr (done.step _))

/-- At the end of the text the literal has at most the characters that it has had so far. -/
theorem Within.finish (within : Within before bound state) {all : List SqlToken}
    (finished : state.finish = some all) :
    ∃ text : List Char, text.length ≤ bound ∧ (.literal false text :: before) <:+ all.reverse := by
  rcases within with ⟨same, text, pending, short⟩ | ⟨text, short, inside⟩
  · obtain ⟨tokens, mode⟩ := state
    subst same
    rcases pendingLiteral_cases pending with rfl | rfl | ⟨newline, rfl⟩ | ⟨newline, rfl⟩ | rfl
    · cases finished
    all_goals
      cases finished
      refine ⟨text, short, ?_⟩
      rw [List.reverse_reverse]
    exact List.suffix_cons _ _
  · exact ⟨text, short, inside.trans (tokens_finish finished)⟩

end Altered

section Counts

variable {state : LexState} {tokens before : List SqlToken} {position bound : Nat}

def lineBreaks (text : List Char) : Nat := text.countP isLineBreak

/-- The text that a token under way has collected. -/
def pendingText : LexMode → List Char
  | .literal _ text => text
  | .escaped text => text
  | .closing _ text => text
  | .afterLiteral _ text _ => text
  | .afterDash _ text _ => text
  | .afterComment _ text => text
  | .dollarBody _ text => text
  | _ => []

/-- A plain literal at the position has at most so many line breaks. -/
def Capped (position bound : Nat) (tokens : List SqlToken) : Prop :=
  ∀ text, tokens.reverse[position]? = some (.literal false text) → lineBreaks text ≤ bound

/-- The literal at the position has at most so many line breaks, also while it is under way. -/
structure Counted (position bound : Nat) (state : LexState) : Prop where
  tokens : Capped position bound state.tokens
  pending : state.tokens.length = position → lineBreaks (pendingText state.mode) ≤ bound

theorem lineBreaks_append (first second : List Char) :
    lineBreaks (first ++ second) = lineBreaks first + lineBreaks second := List.countP_append

theorem lineBreaks_snoc (text : List Char) (character : Char) (short : lineBreaks text ≤ bound) :
    lineBreaks (text ++ [character]) ≤ bound + lineBreaks [character] := by
  rw [lineBreaks_append]
  exact Nat.add_le_add_right short _

theorem Capped.mono {more : Nat} (capped : Capped position bound tokens) (less : bound ≤ more) :
    Capped position more tokens :=
  fun text found => Nat.le_trans (capped text found) less

theorem Capped.cons {token : SqlToken} (capped : Capped position bound tokens)
    (new : tokens.length = position → ∀ text, token = .literal false text → lineBreaks text ≤ bound) :
    Capped position bound (token :: tokens) := by
  intro text found
  rw [List.reverse_cons] at found
  rcases Nat.lt_trichotomy position tokens.length with older | same | beyond
  · rw [List.getElem?_append_left (by rw [List.length_reverse]; exact older)] at found
    exact capped text found
  · subst same
    rw [List.getElem?_append_right (by rw [List.length_reverse])] at found
    simp only [List.length_reverse, Nat.sub_self, List.getElem?_cons_zero, Option.some.injEq] at found
    exact new rfl text found
  · rw [List.getElem?_eq_none (by simp; omega)] at found
    cases found

theorem Capped.other {token : SqlToken} (capped : Capped position bound tokens)
    (other : ∀ text, token ≠ .literal false text) : Capped position bound (token :: tokens) :=
  capped.cons fun _ text same => absurd same (other text)

theorem counted_between (capped : Capped position bound tokens) (character : Char) :
    Counted position bound (LexState.between tokens character) := by
  unfold LexState.between
  repeat' split
  all_goals refine ⟨?_, fun _ => Nat.zero_le _⟩
  all_goals first
    | exact capped
    | exact capped.other fun text same => by cases same

theorem counted_behind {escapes newline : Bool} {text : List Char} {character : Char}
    (counted : Counted position bound ⟨tokens, .closing escapes text⟩) :
    Counted position bound (LexState.behind tokens escapes text newline character) := by
  unfold LexState.behind
  repeat' split
  · exact ⟨counted.tokens, counted.pending⟩
  · exact ⟨counted.tokens, counted.pending⟩
  · exact ⟨counted.tokens, counted.pending⟩
  · exact ⟨counted.tokens, counted.pending⟩
  · apply counted_between
    exact counted.tokens.cons fun here found same => by cases same; exact counted.pending here

theorem Counted.mono {more : Nat} (counted : Counted position bound state) (less : bound ≤ more) :
    Counted position more state :=
  ⟨counted.tokens.mono less, fun here => Nat.le_trans (counted.pending here) less⟩

/-- A character adds at most its own line break to the literal. -/
theorem Counted.step (counted : Counted position bound state) (character : Char) :
    Counted position (bound + lineBreaks [character]) (state.step character) := by
  have less : bound ≤ bound + lineBreaks [character] := Nat.le_add_right _ _
  have wide := counted.mono less
  have other : ∀ token, (∀ text, token ≠ .literal false text) →
      Capped position (bound + lineBreaks [character]) (token :: state.tokens) :=
    fun token different => wide.tokens.other different
  obtain ⟨tokens, mode⟩ := state
  cases mode with
  | between => exact counted_between wide.tokens character
  | word text =>
      simp only [LexState.step]
      repeat' split
      · exact ⟨wide.tokens, fun _ => Nat.zero_le _⟩
      · exact ⟨wide.tokens, fun _ => Nat.zero_le _⟩
      · exact counted_between (other _ fun text same => by cases same) character
  | literal escapes text =>
      have grown : tokens.length = position →
          lineBreaks (text ++ [character]) ≤ bound + lineBreaks [character] :=
        fun here => lineBreaks_snoc text character (counted.pending here)
      simp only [LexState.step]
      repeat' split
      · exact ⟨wide.tokens, wide.pending⟩
      · exact ⟨wide.tokens, grown⟩
      · exact ⟨wide.tokens, grown⟩
  | escaped text =>
      exact ⟨wide.tokens, fun here => lineBreaks_snoc text character (counted.pending here)⟩
  | closing escapes text =>
      simp only [LexState.step]
      split
      · exact ⟨wide.tokens, fun here => lineBreaks_snoc text character (counted.pending here)⟩
      · exact counted_behind wide
  | afterLiteral escapes text newline => exact counted_behind ⟨wide.tokens, wide.pending⟩
  | afterDash escapes text newline =>
      simp only [LexState.step]
      split
      · exact ⟨wide.tokens, wide.pending⟩
      · apply counted_between
        apply Capped.other
        · exact wide.tokens.cons fun here found same => by cases same; exact wide.pending here
        · exact fun text same => by cases same
  | afterComment escapes text =>
      simp only [LexState.step]
      split
      · exact ⟨wide.tokens, wide.pending⟩
      · exact ⟨wide.tokens, wide.pending⟩
  | quoted text =>
      simp only [LexState.step]
      split
      · exact ⟨wide.tokens, fun _ => Nat.zero_le _⟩
      · exact ⟨wide.tokens, fun _ => Nat.zero_le _⟩
  | quotedClosing text =>
      simp only [LexState.step]
      split
      · exact ⟨wide.tokens, fun _ => Nat.zero_le _⟩
      · exact counted_between (other _ fun text same => by cases same) character
  | dash =>
      simp only [LexState.step]
      split
      · exact ⟨wide.tokens, fun _ => Nat.zero_le _⟩
      · exact counted_between (other _ fun text same => by cases same) character
  | lineComment =>
      simp only [LexState.step]
      split
      · exact ⟨wide.tokens, fun _ => Nat.zero_le _⟩
      · exact ⟨wide.tokens, fun _ => Nat.zero_le _⟩
  | slash =>
      simp only [LexState.step]
      split
      · exact ⟨wide.tokens, fun _ => Nat.zero_le _⟩
      · exact counted_between (other _ fun text same => by cases same) character
  | blockComment depth last =>
      simp only [LexState.step]
      repeat' split
      all_goals exact ⟨wide.tokens, fun _ => Nat.zero_le _⟩
  | dollar =>
      simp only [LexState.step]
      repeat' split
      · exact ⟨wide.tokens, fun _ => Nat.zero_le _⟩
      · exact ⟨wide.tokens, fun _ => Nat.zero_le _⟩
      · exact ⟨wide.tokens, fun _ => Nat.zero_le _⟩
      · exact counted_between (other _ fun text same => by cases same) character
  | dollarTag tag =>
      simp only [LexState.step]
      repeat' split
      · exact ⟨wide.tokens, fun _ => Nat.zero_le _⟩
      · exact ⟨wide.tokens, fun _ => Nat.zero_le _⟩
      · apply counted_between
        exact (other (.symbol '$') fun text same => by cases same).other fun text same => by cases same
  | dollarBody tag text =>
      simp only [LexState.step]
      split
      · refine ⟨wide.tokens.cons fun here found same => ?_, fun _ => Nat.zero_le _⟩
        cases same
        exact Nat.le_trans (List.take_sublist _ _).countP_le (wide.pending here)
      · exact ⟨wide.tokens, fun here => lineBreaks_snoc text character (counted.pending here)⟩
  | parameter digits =>
      simp only [LexState.step]
      split
      · exact ⟨wide.tokens, fun _ => Nat.zero_le _⟩
      · exact counted_between (other _ fun text same => by cases same) character

theorem Counted.run (counted : Counted position bound state) (text : List Char) :
    Counted position (bound + lineBreaks text) (state.run text) := by
  induction text generalizing state bound with
  | nil => exact counted
  | cons character rest ih =>
      have last := ih (counted.step character)
      have split : lineBreaks (character :: rest) = lineBreaks [character] + lineBreaks rest :=
        lineBreaks_append [character] rest
      rw [split, ← Nat.add_assoc]
      exact last

theorem Counted.finish (counted : Counted position bound state) {all : List SqlToken}
    (finished : state.finish = some all) {text : List Char}
    (found : all[position]? = some (.literal false text)) : lineBreaks text ≤ bound := by
  have capped : Capped position bound all.reverse := by
    obtain ⟨tokens, mode⟩ := state
    cases mode <;> cases finished <;> rw [List.reverse_reverse]
    all_goals first
      | exact counted.tokens
      | exact counted.tokens.cons fun here found same => by cases same; exact counted.pending here
      | exact counted.tokens.other fun text same => by cases same
      | exact (counted.tokens.cons fun here found same => by
          cases same; exact counted.pending here).other fun text same => by cases same
      | exact (counted.tokens.other fun text same => by cases same).other fun text same => by
          cases same
  exact capped text (by rw [List.reverse_reverse]; exact found)

/-- In a comment behind a literal, either the text ends or a line break is lost for the later
literals. -/
theorem later_literal {text rest : List Char} {all : List SqlToken}
    (finished : (LexState.run ⟨before, .afterComment false text⟩ rest).finish = some all) :
    all.reverse = .literal false text :: before ∨
      (0 < lineBreaks rest ∧ ∀ position, before.length < position → ∀ later,
        all[position]? = some (.literal false later) → lineBreaks later < lineBreaks rest) := by
  induction rest with
  | nil =>
      left
      rw [← Option.some.inj finished, List.reverse_reverse]
  | cons character rest ih =>
      have split : lineBreaks (character :: rest) = lineBreaks [character] + lineBreaks rest :=
        lineBreaks_append [character] rest
      by_cases line : isLineBreak character = true
      · right
        have one : lineBreaks [character] = 1 := by simp [lineBreaks, line]
        refine ⟨by omega, fun position beyond later found => ?_⟩
        have opened : LexState.step ⟨before, .afterComment false text⟩ character =
            ⟨before, .afterLiteral false text true⟩ := by simp [LexState.step, line]
        have start : Counted position 0 ⟨before, .afterLiteral false text true⟩ := by
          refine ⟨fun text found => ?_, fun here => absurd here (Nat.ne_of_lt beyond)⟩
          rw [List.getElem?_eq_none (by rw [List.length_reverse]; exact Nat.le_of_lt beyond)] at found
          cases found
        have continued : (LexState.run ⟨before, .afterLiteral false text true⟩ rest).finish = some all := by
          rw [← opened]
          exact finished
        have few := (start.run rest).finish continued found
        omega
      · have same : LexState.step ⟨before, .afterComment false text⟩ character =
            ⟨before, .afterComment false text⟩ := by simp [LexState.step, line]
        have continued : (LexState.run ⟨before, .afterComment false text⟩ rest).finish = some all := by
          rw [← same]
          exact finished
        rcases ih continued with ended | ⟨some, fewer⟩
        · exact .inl ended
        · refine .inr ⟨by omega, fun position beyond later found => ?_⟩
          have less := fewer position beyond later found
          omega

end Counts

section Values

variable {before : List SqlToken} {value tail : List Char} {all : List SqlToken}

/-- What may follow a literal: the end of the text, or a word behind a blank. -/
def FollowsLiteral (tail : List Char) : Prop :=
  tail = [] ∨ ∃ character rest, tail = ' ' :: character :: rest ∧ continuesWord character = true

theorem Settled.run {tokens : List SqlToken} {state : LexState} (settled : Settled tokens state)
    {character : Char} (continues : continuesWord character = true) (rest : List Char) :
    state.run (' ' :: character :: rest) = LexState.run ⟨tokens, .word [character]⟩ rest :=
  congrArg (fun next : LexState => next.run rest) (settled.2 character continues)

/-- A value without quotes is the middle of the literal that its percent signs begin and end. -/
theorem settled_value (plain : '\'' ∉ value) :
    Settled (.literal false ('%' :: value ++ ['%']) :: before)
      (LexState.run ⟨before, .literal false ['%']⟩ (value ++ ['%', '\''])) := by
  have ended : LexState.run ⟨before, .literal false ['%']⟩ (value ++ ['%', '\'']) =
      ⟨before, .closing false ('%' :: value ++ ['%'])⟩ := by
    rw [run_append, run_plain plain]
    simp [LexState.run, LexState.step]
  rw [ended]
  exact settled_closing

/-- A text that ends within a value leaves the literal no longer than that. -/
theorem shortened_by_end
    (finished : (LexState.run ⟨before, .literal false ['%']⟩ value).finish = some all) :
    ∃ text : List Char, text.length ≤ 1 + value.length ∧
      (.literal false text :: before) <:+ all.reverse := by
  have start : Within before 1 ⟨before, .literal false ['%']⟩ := .inl ⟨rfl, _, rfl, Nat.le_refl _⟩
  exact (start.run value).finish finished

/-- A quote in a value makes the literal too short, or a comment takes a line break away from what
follows. -/
theorem altered_by_quote (quote : '\'' ∈ value) (follows : FollowsLiteral tail)
    (finished : (LexState.run ⟨before, .literal false ['%']⟩ (value ++ '%' :: '\'' :: tail)).finish =
      some all) :
    (∃ text : List Char, text.length ≤ value.length + 1 ∧
      (.literal false text :: before) <:+ all.reverse) ∨
    (0 < lineBreaks tail ∧ ∀ position, before.length < position → ∀ later,
      all[position]? = some (.literal false later) → lineBreaks later < lineBreaks tail) := by
  rw [run_append] at finished
  have within : Within before value.length
      (LexState.run ⟨before, .literal false ['%']⟩ value) :=
    (within_quoted quote).mono (by rw [List.length_singleton]; omega)
  generalize LexState.run ⟨before, .literal false ['%']⟩ value = state at finished within
  have split : state.run ('%' :: '\'' :: tail) = ((state.step '%').step '\'').run tail := rfl
  rw [split] at finished
  rcases within.percent with ⟨text, opened, short⟩ | ⟨text, comment, short⟩ | done
  · left
    rw [opened] at finished
    have closed : LexState.step ⟨before, .literal false text⟩ '\'' = ⟨before, .closing false text⟩ := rfl
    rw [closed] at finished
    rcases follows with rfl | ⟨character, rest, rfl, continues⟩
    · have waiting : Within before (value.length + 1) ⟨before, .closing false text⟩ :=
        .inl ⟨rfl, text, rfl, short⟩
      exact waiting.finish finished
    · rw [settled_closing.run continues] at finished
      have done : Done before (value.length + 1)
          ⟨.literal false text :: before, .word [character]⟩ := ⟨text, short, List.suffix_rfl⟩
      exact Within.finish (.inr (done.run rest)) finished
  · rw [comment] at finished
    have same : LexState.step ⟨before, .afterComment false text⟩ '\'' =
        ⟨before, .afterComment false text⟩ := rfl
    rw [same] at finished
    rcases later_literal finished with ended | fewer
    · exact .inl ⟨text, Nat.le_succ_of_le short, ended ▸ List.suffix_rfl⟩
    · exact .inr fewer
  · left
    have later : Done before (value.length + 1) (((state.step '%').step '\'').run tail) :=
      ((done.step '\'').run tail).mono (Nat.le_succ _)
    exact Within.finish (.inr later) finished

end Values

end DiskServer.Library
