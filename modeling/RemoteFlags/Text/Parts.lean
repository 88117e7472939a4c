/-!
# Parts between separators

## Main definitions

* `parts p l`: the parts of a list between the elements that satisfy `p`.

## Main statements

* `parts_ne_nil`: there is always a part.
* `not_of_mem_parts`: no part holds a separator.
-/

namespace RemoteFlags.Text

variable {α : Type}

/-- Puts an element in front of the first part. -/
def consPart (a : α) : List (List α) → List (List α)
  | [] => [[a]]
  | part :: rest => (a :: part) :: rest

/-- The parts of a list between the elements that satisfy `p`. -/
def parts (p : α → Bool) : List α → List (List α)
  | [] => [[]]
  | a :: l => if p a then [] :: parts p l else consPart a (parts p l)

@[simp] theorem parts_nil (p : α → Bool) : parts p [] = [[]] := rfl

theorem parts_cons_of_pos {p : α → Bool} {a : α} (h : p a = true) (l : List α) :
    parts p (a :: l) = [] :: parts p l := by
  simp [parts, h]

theorem parts_cons_of_neg {p : α → Bool} {a : α} (h : p a = false) (l : List α) :
    parts p (a :: l) = consPart a (parts p l) := by
  simp [parts, h]

theorem consPart_ne_nil (a : α) (ps : List (List α)) : consPart a ps ≠ [] := by
  cases ps <;> simp [consPart]

theorem parts_ne_nil (p : α → Bool) (l : List α) : parts p l ≠ [] := by
  cases l with
  | nil => simp
  | cons a l =>
    unfold parts
    split
    · simp
    · exact consPart_ne_nil a _

theorem not_of_mem_consPart {p : α → Bool} {a : α} (ha : p a = false) {ps : List (List α)}
    (hps : ∀ part ∈ ps, ∀ b ∈ part, p b = false) :
    ∀ part ∈ consPart a ps, ∀ b ∈ part, p b = false := by
  intro part hpart b hb
  cases ps with
  | nil =>
    obtain rfl : part = [a] := by simpa [consPart] using hpart
    obtain rfl : b = a := by simpa using hb
    exact ha
  | cons first rest =>
    rcases List.mem_cons.mp hpart with rfl | hrest
    · rcases List.mem_cons.mp hb with rfl | hb
      · exact ha
      · exact hps first List.mem_cons_self b hb
    · exact hps part (List.mem_cons_of_mem first hrest) b hb

/-- No part holds a separator. -/
theorem not_of_mem_parts (p : α → Bool) (l : List α) :
    ∀ part ∈ parts p l, ∀ a ∈ part, p a = false := by
  induction l with
  | nil => simp
  | cons a l ih =>
    by_cases h : p a = true
    · rw [parts_cons_of_pos h]
      intro part hpart
      rcases List.mem_cons.mp hpart with rfl | hpart
      · simp
      · exact ih part hpart
    · have h' : p a = false := by simpa using h
      rw [parts_cons_of_neg h']
      exact not_of_mem_consPart h' ih

end RemoteFlags.Text
