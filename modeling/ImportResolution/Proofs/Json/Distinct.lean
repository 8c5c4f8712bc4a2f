import ImportResolution.Proofs.Json.Notation

/-! Values in which no object repeats a name. Every value that is read is one of them, since a name
that is written again replaces the value that it had. -/
namespace ImportResolution.Json

variable {v : Json}

/-- Values in which no object repeats a name. -/
inductive Distinct : Json → Prop where
  | scalar {v : Json} (plain : v.isContainer = false) : Distinct v
  | arr {vs : List Json} (each : ∀ v ∈ vs, Distinct v) : Distinct (.arr vs)
  | obj {ms : List (Text × Json)} (names : (ms.map Prod.fst).Nodup)
      (each : ∀ m ∈ ms, Distinct m.2) : Distinct (.obj ms)

/-! ### Names that are set -/

theorem names_put (ms : List (Text × Json)) (name : Text) (v : Json) :
    (put ms name v).map Prod.fst
      = if name ∈ ms.map Prod.fst then ms.map Prod.fst else ms.map Prod.fst ++ [name] := by
  induction ms with
  | nil => rfl
  | cons m ms ih =>
    by_cases same : m.1 = name
    · simp [put, same]
    · have other : name ≠ m.1 := fun eq => same eq.symm
      simp only [put, same, if_false, List.map_cons, ih, List.mem_cons, other, false_or]
      split <;> simp

theorem mem_put {ms : List (Text × Json)} {name : Text} {m : Text × Json}
    (member : m ∈ put ms name v) : m ∈ ms ∨ m.2 = v := by
  induction ms with
  | nil =>
    rw [List.mem_singleton.mp member]
    exact .inr rfl
  | cons first ms ih =>
    unfold put at member
    split at member
    · rcases List.mem_cons.mp member with rfl | member
      · exact .inr rfl
      · exact .inl (List.mem_cons_of_mem _ member)
    · rcases List.mem_cons.mp member with rfl | member
      · exact .inl (List.mem_cons_self ..)
      · exact (ih member).imp_left (List.mem_cons_of_mem _)

theorem distinct_foldl {done ms : List (Text × Json)} (names : (done.map Prod.fst).Nodup)
    (old : ∀ m ∈ done, Distinct m.2) (each : ∀ m ∈ ms, Distinct m.2) :
    Distinct (.obj (ms.foldl (fun done m => put done m.1 m.2) done)) := by
  induction ms generalizing done with
  | nil => exact .obj names old
  | cons m ms ih =>
    obtain ⟨first, others⟩ := List.forall_mem_cons.mp each
    refine ih ?_ ?_ others
    · rw [names_put]
      split
      · exact names
      · rename_i new
        refine List.nodup_append.mpr ⟨names, by simp, ?_⟩
        rintro name listed other single rfl
        exact new (List.mem_singleton.mp single ▸ listed)
    · intro m' member
      rcases mem_put member with member | same
      · exact old m' member
      · rw [same]; exact first

/-- An object that is put together repeats no name. -/
theorem distinct_object {ms : List (Text × Json)} (each : ∀ m ∈ ms, Distinct m.2) :
    Distinct (object ms) :=
  distinct_foldl (by simp) (by simp) each

theorem put_of_new {ms : List (Text × Json)} {name : Text} (new : name ∉ ms.map Prod.fst)
    (v : Json) : put ms name v = ms ++ [(name, v)] := by
  induction ms with
  | nil => rfl
  | cons m ms ih =>
    simp only [List.map_cons, List.mem_cons, not_or] at new
    have other : m.1 ≠ name := fun same => new.1 same.symm
    simp [put, other, ih new.2]

theorem foldl_put_of_nodup {done ms : List (Text × Json)}
    (names : ((done ++ ms).map Prod.fst).Nodup) :
    ms.foldl (fun done m => put done m.1 m.2) done = done ++ ms := by
  induction ms generalizing done with
  | nil => simp
  | cons m ms ih =>
    have new : m.1 ∉ done.map Prod.fst := by
      intro old
      rw [List.map_append, List.nodup_append] at names
      exact names.2.2 _ old _ (by simp) rfl
    rw [List.foldl_cons, put_of_new new, ih (by simpa using names)]
    simp

/-- Members that repeat no name are the members of their object. -/
theorem object_of_nodup {ms : List (Text × Json)} (names : (ms.map Prod.fst).Nodup) :
    object ms = .obj ms := by
  rw [object, foldl_put_of_nodup (by simpa using names)]
  rfl

/-- A value that is spelled repeats no name. -/
theorem Spells.distinct {part : Part} {text : Text} (spelled : Spells part text) :
    match part with
    | .value v | .member (_, v) => Distinct v
    | .items vs => ∀ v ∈ vs, Distinct v
    | .members ms => ∀ m ∈ ms, Distinct m.2 := by
  induction spelled with
  | word listed =>
    simp only [words, List.mem_cons, Prod.mk.injEq, List.not_mem_nil, or_false] at listed
    rcases listed with ⟨rfl, -⟩ | ⟨rfl, -⟩ | ⟨rfl, -⟩ | ⟨rfl, -⟩ | ⟨rfl, -⟩ | ⟨rfl, -⟩ <;>
      exact .scalar rfl
  | @number n v formed denotes =>
    unfold Numeral.value? at denotes
    split at denotes
    · split at denotes
      · cases denotes
      · cases denotes; exact .scalar rfl
    · cases denotes; exact .scalar rfl
  | string spelled => exact .scalar rfl
  | emptyArray blank => exact .arr (by simp)
  | array blank spelled ih => exact .arr ih
  | emptyObject blank => exact .obj (by simp) (by simp)
  | object blank spelled ih => exact distinct_object ih
  | lastItem spelled blank ih => simpa using ih
  | item spelled first second more ih ihMore => exact List.forall_mem_cons.mpr ⟨ih, ihMore⟩
  | named named first second spelled ih => exact ih
  | lastMember spelled blank ih => simpa using ih
  | member spelled first second more ih ihMore => exact List.forall_mem_cons.mpr ⟨ih, ihMore⟩

/-- A value that was read repeats no name. -/
theorem distinct_of_parse {s : Text} (accepted : parse s = .ok v) : Distinct v := by
  obtain ⟨before, text, after, -, -, -, spelled⟩ := parse_eq_ok_iff.mp accepted
  exact spelled.distinct

end ImportResolution.Json
