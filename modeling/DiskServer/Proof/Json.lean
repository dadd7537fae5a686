import DiskServer.Construction.Json
import DiskServer.Library.Table

namespace DiskServer.Json

open Library

variable {fields others : List (String × Json)} {payload : Json} {name : String}

theorem field_object (fields : List (String × Json)) (name : String) :
    (Json.object fields).field name =
      ((fields.find? fun field => field.1 = name).map Prod.snd).getD .null := rfl

theorem isMember_object (fields : List (String × Json)) (name : String) :
    (Json.object fields).isMember name = true ↔ name ∈ fields.map Prod.fst := by
  simp [isMember, List.any_eq_true]

/-- Only a member of an object reads as something else than null. -/
theorem isMember_of_field {value : Json} (read : payload.field name = value) (there : value ≠ .null) :
    payload.isMember name = true := by
  cases payload with
  | object fields =>
      rw [isMember_object]
      by_contra absent
      have missing : (fields.find? fun field => field.1 = name) = none := by
        rw [List.find?_eq_none]
        intro field present same
        exact absent (List.mem_map.mpr ⟨field, present, of_decide_eq_true same⟩)
      rw [field_object, missing] at read
      exact there read.symm
  | null => exact absurd read.symm there
  | bool => exact absurd read.symm there
  | number => exact absurd read.symm there
  | string => exact absurd read.symm there
  | array => exact absurd read.symm there

theorem field_of_not_isMember (absent : ¬ payload.isMember name = true) :
    payload.field name = .null := by
  by_contra there
  exact absent (isMember_of_field rfl there)

/-- A field of an object whose names are distinct reads as its value. -/
theorem field_of_mem (distinct : (fields.map Prod.fst).Nodup) {field : String × Json}
    (listed : field ∈ fields) : (Json.object fields).field field.1 = field.2 := by
  let table : Table (String × Json) Prod.fst := ⟨fields, distinct⟩
  have found : table.find? field.1 = some field := Table.find?_eq_some_iff.mpr ⟨listed, rfl⟩
  rw [field_object]
  exact congrArg (fun found : Option (String × Json) => (found.map Prod.snd).getD .null) found

/-- The order of the fields does not matter when every name stands once. -/
theorem field_perm (reordered : fields.Perm others) (distinct : (fields.map Prod.fst).Nodup) :
    (Json.object fields).field name = (Json.object others).field name := by
  have unique : (others.map Prod.fst).Nodup := (reordered.map Prod.fst).nodup_iff.mp distinct
  by_cases there : name ∈ fields.map Prod.fst
  · obtain ⟨field, listed, rfl⟩ := List.mem_map.mp there
    rw [field_of_mem distinct listed, field_of_mem unique (reordered.mem_iff.mp listed)]
  · have elsewhere : name ∉ others.map Prod.fst :=
      fun listed => there ((reordered.map Prod.fst).mem_iff.mpr listed)
    rw [field_of_not_isMember (fun member => there ((isMember_object _ _).mp member)),
      field_of_not_isMember (fun member => elsewhere ((isMember_object _ _).mp member))]

/-- An object with as many fields as it is known to have at least has no other field. -/
theorem sameObject_of_size (shape : payload.isObject = true)
    (distinct : (fields.map Prod.fst).Nodup) (size : payload.size = fields.length)
    (reads : ∀ field ∈ fields, payload.field field.1 = field.2)
    (there : ∀ field ∈ fields, field.2 ≠ .null) : SameObject payload (.object fields) := by
  cases payload with
  | object stored =>
      have included : fields.map Prod.fst ⊆ (Json.object stored).names := by
        intro name present
        obtain ⟨field, listed, rfl⟩ := List.mem_map.mp present
        have member := isMember_of_field (reads field listed) (there field listed)
        exact List.mem_dedup.mpr ((isMember_object _ _).mp member)
      have same : (fields.map Prod.fst).Perm (Json.object stored).names := by
        refine (List.subperm_of_subset distinct included).perm_of_length_le ?_
        rw [List.length_map]
        exact Nat.le_of_eq size
      have members : ∀ name, (Json.object stored).isMember name = (Json.object fields).isMember name := by
        intro name
        rw [Bool.eq_iff_iff, isMember_object, isMember_object, ← List.mem_dedup]
        exact same.mem_iff.symm
      refine ⟨shape, rfl, fun name => ⟨members name, ?_⟩⟩
      by_cases member : (Json.object fields).isMember name = true
      · have listed := (isMember_object _ _).mp member
        obtain ⟨field, present, rfl⟩ := List.mem_map.mp listed
        rw [reads field present, field_of_mem distinct present]
      · rw [field_of_not_isMember member,
          field_of_not_isMember (fun stored => member ((members name) ▸ stored))]
  | null => cases shape
  | bool => cases shape
  | number => cases shape
  | string => cases shape
  | array => cases shape

/-- The scalar values come back from a jsonb column as they are. -/
def Scalar : Json → Prop
  | .array _ => False
  | .object _ => False
  | _ => True

theorem stored_scalar {value kept : Json} (scalar : value.Scalar) (accepted : value.stored = some kept) :
    kept = value := by
  cases value with
  | string text =>
      simp only [stored] at accepted
      split at accepted
      · exact (Option.some.inj accepted).symm
      · cases accepted
  | null => exact (Option.some.inj accepted).symm
  | bool => exact (Option.some.inj accepted).symm
  | number => exact (Option.some.inj accepted).symm
  | array => exact scalar.elim
  | object => exact scalar.elim

theorem storedFields_scalars {kept : List (String × Json)}
    (scalars : ∀ field ∈ fields, field.2.Scalar) (accepted : storedFields fields = some kept) :
    kept = fields := by
  induction fields generalizing kept with
  | nil => exact (Option.some.inj accepted).symm
  | cons field rest continues =>
      obtain ⟨name, value⟩ := field
      simp only [storedFields] at accepted
      split at accepted
      · simp only [bind, Option.bind_eq_some_iff, pure, Option.some.injEq] at accepted
        obtain ⟨first, scalar, others, remaining, rfl⟩ := accepted
        rw [stored_scalar (scalars _ List.mem_cons_self) scalar,
          continues (fun field listed => scalars field (List.mem_cons_of_mem _ listed)) remaining]
      · cases accepted

theorem keepLast_of_nodup (distinct : (fields.map Prod.fst).Nodup) : keepLast fields = fields := by
  induction fields with
  | nil => rfl
  | cons field rest continues =>
      obtain ⟨fresh, distinct⟩ := List.nodup_cons.mp distinct
      have last : (rest.any fun other => other.1 = field.1) = false := by
        rw [List.any_eq_false]
        intro other listed same
        exact fresh (List.mem_map.mpr ⟨other, listed, of_decide_eq_true same⟩)
      rw [keepLast, last, continues distinct]
      rfl

/-- A jsonb column keeps every field of a flat object. -/
theorem stored_object (scalars : ∀ field ∈ fields, field.2.Scalar)
    (distinct : (fields.map Prod.fst).Nodup) (accepted : (Json.object fields).stored = some payload) :
    payload.isObject = true ∧ payload.size = fields.length ∧
      ∀ name, payload.field name = (Json.object fields).field name := by
  simp only [stored, Option.map_eq_some_iff] at accepted
  obtain ⟨kept, same, rfl⟩ := accepted
  rw [storedFields_scalars scalars same, keepLast_of_nodup distinct]
  have reordered : fields.Perm (fields.mergeSort fieldBefore) := (List.mergeSort_perm _ _).symm
  have unique := (reordered.map Prod.fst).nodup_iff.mp distinct
  refine ⟨rfl, ?_, fun name => (field_perm reordered distinct).symm⟩
  rw [size, names, List.Nodup.dedup unique, List.length_map, List.length_mergeSort]

/-- A jsonb column accepts a flat object without the character U+0000. -/
theorem stored_object_isSome (names : ∀ field ∈ fields, storableText field.1 = true)
    (values : ∀ field ∈ fields, field.2.stored.isSome = true) :
    ∃ payload, (Json.object fields).stored = some payload := by
  have accepted : ∃ kept, storedFields fields = some kept := by
    induction fields with
    | nil => exact ⟨[], rfl⟩
    | cons field rest continues =>
        obtain ⟨name, value⟩ := field
        obtain ⟨kept, value⟩ := Option.isSome_iff_exists.mp (values _ List.mem_cons_self)
        obtain ⟨others, remaining⟩ := continues
          (fun field listed => names field (List.mem_cons_of_mem _ listed))
          (fun field listed => values field (List.mem_cons_of_mem _ listed))
        refine ⟨(name, kept) :: others, ?_⟩
        simp only [storedFields, names _ List.mem_cons_self, if_true, value, remaining]
        rfl
  obtain ⟨kept, accepted⟩ := accepted
  refine ⟨.object ((keepLast kept).mergeSort fieldBefore), ?_⟩
  simp only [stored, accepted, Option.map_some]

@[simp]
theorem uint64?_number (value : UInt64) : (Json.number value.toNat).uint64? = some value := by
  have bound := value.toNat_lt_size
  simp only [uint64?]
  rw [if_pos ⟨by omega, by omega⟩]
  simp

theorem uint64?_eq_some {value : Json} {number : UInt64} (read : value.uint64? = some number) :
    value = .number number.toNat := by
  cases value with
  | number stored =>
      simp only [uint64?] at read
      split at read
      · next range =>
        have back := Option.some.inj read
        subst back
        have small : stored.toNat < UInt64.size := by omega
        rw [UInt64.toNat_ofNat_of_lt' small]
        congr
        omega
      · cases read
  | null => cases read
  | bool => cases read
  | string => cases read
  | array => cases read
  | object => cases read

theorem string?_eq_some {value : Json} {text : String} (read : value.string? = some text) :
    value = .string text := by
  cases value with
  | string stored => exact congrArg Json.string (Option.some.inj read)
  | null => cases read
  | bool => cases read
  | number => cases read
  | array => cases read
  | object => cases read

end DiskServer.Json
