/-!
# Results that may be faults

What has to hold of the parts when a result that is put together from parts is right, or a
fault.
-/

namespace RiverPuzzle

section

variable {α β ε δ : Type} {first : Except ε α} {result : β} {fault : ε}

theorem bind_eq_ok_iff {next : α → Except ε β} :
    first >>= next = .ok result ↔ ∃ found, first = .ok found ∧ next found = .ok result := by
  cases first <;> simp [bind, Except.bind]

theorem bind_eq_error_iff {next : α → Except ε β} :
    first >>= next = .error fault ↔
      first = .error fault ∨ ∃ found, first = .ok found ∧ next found = .error fault := by
  cases first <;> simp [bind, Except.bind]

theorem map_eq_ok_iff {change : α → β} :
    first.map change = .ok result ↔ ∃ found, first = .ok found ∧ change found = result := by
  cases first <;> simp [Except.map]

theorem map_eq_error_iff {change : α → β} :
    first.map change = .error fault ↔ first = .error fault := by
  cases first <;> simp [Except.map]

theorem mapError_eq_ok_iff {change : ε → δ} {found : α} :
    first.mapError change = .ok found ↔ first = .ok found := by
  cases first with
  | error reason => constructor <;> intro h <;> cases h
  | ok value => constructor <;> intro h <;> cases h <;> rfl

theorem mapError_eq_error_iff {change : ε → δ} {changed : δ} :
    first.mapError change = .error changed ↔
      ∃ fault, first = .error fault ∧ change fault = changed := by
  cases first with
  | error reason =>
      constructor
      · intro h
        cases h
        exact ⟨reason, rfl, rfl⟩
      · rintro ⟨fault, hfault, rfl⟩
        cases hfault
        rfl
  | ok value =>
      constructor
      · intro h
        cases h
      · rintro ⟨fault, hfault, -⟩
        cases hfault

end

end RiverPuzzle
