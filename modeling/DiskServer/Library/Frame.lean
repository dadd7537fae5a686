import DiskServer.Library.Transaction

/-
This file gives rules for transactions that leave a part of the state alone or preserve an invariant of it.
-/

namespace DiskServer.Library

namespace Transaction

variable {State Failure Value Result Item Frame : Type} (frame : State → Frame)

/-- A successful run from this state leaves its frame as it was. -/
def KeepsFrameAt (before : State) (program : Transaction State Failure Value) : Prop :=
  ∀ value after, program.run before = .ok (value, after) → frame after = frame before

/-- No successful run of the program changes the frame. -/
def KeepsFrame (program : Transaction State Failure Value) : Prop :=
  ∀ before, KeepsFrameAt frame before program

variable {frame}

theorem keepsFrame_pure (value : Value) :
    KeepsFrame frame (pure value : Transaction State Failure Value) := by
  intro before result after ran
  rw [(pure_ok ran).2]

theorem keepsFrame_throw (failure : Failure) :
    KeepsFrame frame (throw failure : Transaction State Failure Value) :=
  fun _ _ _ ran => (throw_ok ran).elim

theorem keepsFrameAt_set {before written : State} (same : frame written = frame before) :
    KeepsFrameAt frame before (set written : Transaction State Failure PUnit) := by
  intro value after ran
  rw [set_ok ran, same]

theorem keepsFrame_modify {change : State → State} (same : ∀ state, frame (change state) = frame state) :
    KeepsFrame frame (modify change : Transaction State Failure Unit) := by
  intro before value after ran
  rw [modify_ok ran, same]

theorem keepsFrameAt_bind {before : State} {program : Transaction State Failure Value}
    {next : Value → Transaction State Failure Result} (first : KeepsFrameAt frame before program)
    (rest : ∀ value, KeepsFrame frame (next value)) : KeepsFrameAt frame before (program >>= next) := by
  intro result last ran
  obtain ⟨value, middle, one, two⟩ := bind_ok ran
  exact (rest value middle result last two).trans (first value middle one)

theorem keepsFrame_bind {program : Transaction State Failure Value}
    {next : Value → Transaction State Failure Result} (first : KeepsFrame frame program)
    (rest : ∀ value, KeepsFrame frame (next value)) : KeepsFrame frame (program >>= next) :=
  fun before => keepsFrameAt_bind (first before) rest

/-- A program that reads the state continues with the state that it has read. -/
theorem keepsFrame_get_bind {next : State → Transaction State Failure Result}
    (rest : ∀ before, KeepsFrameAt frame before (next before)) : KeepsFrame frame (get >>= next) := by
  intro before result last ran
  have two := get_bind_ok ran
  exact rest _ result last two

theorem keepsFrame_map {program : Transaction State Failure Value} {change : Value → Result}
    (kept : KeepsFrame frame program) : KeepsFrame frame (change <$> program) := by
  intro before result last ran
  obtain ⟨value, one, -⟩ := map_ok ran
  exact kept before value last one

theorem keepsFrame_forM {body : Item → Transaction State Failure PUnit} {items : List Item}
    (each : ∀ item ∈ items, KeepsFrame frame (body item)) : KeepsFrame frame (items.forM body) :=
  Ensures.forM (fun before after => frame after = frame before) (fun _ => rfl)
    (fun _ _ _ one two => two.trans one) each

theorem keepsFrame_foldlM {body : Value → Item → Transaction State Failure Value} {items : List Item}
    (each : ∀ item ∈ items, ∀ value, KeepsFrame frame (body value item)) (start : Value) :
    KeepsFrame frame (items.foldlM body start) := by
  induction items generalizing start with
  | nil => exact keepsFrame_pure start
  | cons item rest ih =>
      rw [List.foldlM_cons]
      refine keepsFrame_bind (each item List.mem_cons_self start) fun value => ?_
      exact ih (fun other present => each other (List.mem_cons_of_mem item present)) value

end Transaction

namespace Ensures

/-- A fold that uses up its items keeps what its rounds keep of the items to come. -/
theorem foldlM_consumes {State Failure Item Value : Type} (Inv : List Item → Value → State → Prop)
    {body : Value → Item → Transaction State Failure Value}
    (round : ∀ item rest value, Ensures (body value item) fun before next after =>
      Inv (item :: rest) value before → Inv rest next after)
    (items later : List Item) (start : Value) :
    Ensures (items.foldlM body start) fun before last after =>
      Inv (items ++ later) start before → Inv later last after := by
  induction items generalizing start with
  | nil =>
      intro before last after ran here
      rw [List.foldlM_nil] at ran
      obtain ⟨rfl, rfl⟩ := Transaction.pure_ok ran
      exact here
  | cons item rest ih =>
      intro before last after ran here
      rw [List.foldlM_cons] at ran
      obtain ⟨next, middle, one, two⟩ := Transaction.bind_ok ran
      exact ih next _ _ _ two (round item (rest ++ later) start _ _ _ one here)

variable {State Failure Item Row : Type} {rows : State → List Row} {key : Row → Nat}
  {itemKey : Item → Nat} {change : Item → Row → Row}

/-- A loop whose rounds each rewrite the row of their item rewrites the rows of all items. -/
theorem forM_rewrites {body : Item → Transaction State Failure PUnit} {items : List Item}
    (keyed : ∀ item row, key (change item row) = key row) (once : (items.map itemKey).Nodup)
    (round : ∀ item ∈ items, Ensures (body item) fun before _ after =>
      rows after = (rows before).map fun row => if key row = itemKey item then change item row else row) :
    Ensures (items.forM body) fun before _ after => ∀ target : Row → Row,
      (∀ item ∈ items, ∀ row ∈ rows before, key row = itemKey item → change item row = target row) →
      rows after = (rows before).map fun row =>
        if items.any fun item => itemKey item = key row then target row else row := by
  induction items with
  | nil =>
      intro before value after ran target agree
      obtain ⟨-, rfl⟩ := Transaction.pure_ok ran
      simp
  | cons item rest ih =>
      intro before value after ran target agree
      change (body item >>= fun _ => rest.forM body).run before = _ at ran
      obtain ⟨_, middle, one, two⟩ := Transaction.bind_ok ran
      obtain ⟨absent, distinct⟩ := List.nodup_cons.mp once
      have first := round item List.mem_cons_self _ _ _ one
      have others : ∀ other ∈ rest, itemKey other ≠ itemKey item := by
        intro other present same
        exact absent (same ▸ List.mem_map_of_mem present)
      have later := ih distinct (fun other present => round other (List.mem_cons_of_mem item present))
        _ _ _ two target (by
          intro other present row inMiddle named
          rw [first] at inMiddle
          obtain ⟨old, there, rfl⟩ := List.mem_map.mp inMiddle
          by_cases here : key old = itemKey item
          · rw [if_pos here, keyed] at named
            exact absurd (named.symm.trans here) (others other present)
          · rw [if_neg here] at named ⊢
            exact agree other (List.mem_cons_of_mem item present) old there named)
      rw [later, first, List.map_map]
      apply List.map_congr_left
      intro row there
      by_cases here : key row = itemKey item
      · have done : (rest.any fun other => itemKey other = itemKey item) = false := by
          simpa using others
        simp only [Function.comp_apply, here, if_true, keyed, done, Bool.false_eq_true, if_false,
          List.any_cons, decide_true, Bool.true_or]
        exact agree item List.mem_cons_self row there here
      · simp [here, Ne.symm here]

end Ensures

namespace Transaction

variable {State Failure Value Result Item : Type} (Inv : State → Prop)

/-- Every successful run from a state with the invariant ends in a state with the invariant. -/
def Preserves (program : Transaction State Failure Value) : Prop :=
  ∀ before value after, Inv before → program.run before = .ok (value, after) → Inv after

variable {Inv}

theorem preserves_pure (value : Value) : Preserves Inv (pure value : Transaction State Failure Value) := by
  intro before result after here ran
  rw [(pure_ok ran).2]
  exact here

theorem preserves_throw (failure : Failure) :
    Preserves Inv (throw failure : Transaction State Failure Value) :=
  fun _ _ _ _ ran => (throw_ok ran).elim

theorem preserves_set {written : State} (there : Inv written) :
    Preserves Inv (set written : Transaction State Failure PUnit) := by
  intro before value after _ ran
  rw [set_ok ran]
  exact there

theorem preserves_modify {change : State → State} (kept : ∀ state, Inv state → Inv (change state)) :
    Preserves Inv (modify change : Transaction State Failure Unit) := by
  intro before value after here ran
  rw [modify_ok ran]
  exact kept before here

theorem preserves_bind {program : Transaction State Failure Value}
    {next : Value → Transaction State Failure Result} (first : Preserves Inv program)
    (rest : ∀ value, Preserves Inv (next value)) : Preserves Inv (program >>= next) := by
  intro before result last here ran
  obtain ⟨value, middle, one, two⟩ := bind_ok ran
  exact rest value middle result last (first before value middle here one) two

/-- A program that reads the state continues with a state that has the invariant. -/
theorem preserves_get_bind {next : State → Transaction State Failure Result}
    (rest : ∀ before, Inv before → Preserves Inv (next before)) : Preserves Inv (get >>= next) := by
  intro before result last here ran
  have two := get_bind_ok ran
  exact rest _ here _ result last here two

theorem preserves_map {program : Transaction State Failure Value} {change : Value → Result}
    (kept : Preserves Inv program) : Preserves Inv (change <$> program) := by
  intro before result last here ran
  obtain ⟨value, one, -⟩ := map_ok ran
  exact kept before value last here one

/-- An invariant of a part of the state is preserved by the programs that leave the part alone. -/
theorem preserves_of_frame {Frame : Type} {frame : State → Frame}
    {program : Transaction State Failure Value} (kept : KeepsFrame frame program)
    (part : ∀ first second, frame first = frame second → Inv second → Inv first) :
    Preserves Inv program :=
  fun before value after here ran => part after before (kept before value after ran) here

theorem preserves_forM {body : Item → Transaction State Failure PUnit} {items : List Item}
    (each : ∀ item ∈ items, Preserves Inv (body item)) : Preserves Inv (items.forM body) := by
  intro before value after here ran
  exact Ensures.forM (fun first last => Inv first → Inv last) (fun _ here => here)
    (fun _ _ _ one two here => two (one here))
    (fun item present first value last ran here => each item present first value last here ran)
    before value after ran here

theorem preserves_foldlM {body : Value → Item → Transaction State Failure Value} {items : List Item}
    (each : ∀ item ∈ items, ∀ value, Preserves Inv (body value item)) (start : Value) :
    Preserves Inv (items.foldlM body start) := by
  induction items generalizing start with
  | nil => exact preserves_pure start
  | cons item rest ih =>
      rw [List.foldlM_cons]
      refine preserves_bind (each item List.mem_cons_self start) fun value => ?_
      exact ih (fun other present => each other (List.mem_cons_of_mem item present)) value

end Transaction

end DiskServer.Library
