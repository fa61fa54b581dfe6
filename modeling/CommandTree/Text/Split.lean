/-!
Texts cut at a character.

* `splitAt` are the parts of a text between the occurrences of a character;
* `not_mem_of_mem_splitAt`: the character itself occurs in none of them;
* `splitAt_of_notMem`: a text without the character is one part.
-/

namespace CommandTree.Text

/-- The parts of a text between the occurrences of a character; a text without it is one part. -/
def splitAt (mark : Char) : List Char → List (List Char)
  | [] => [[]]
  | c :: cs =>
    if c = mark then [] :: splitAt mark cs
    else match splitAt mark cs with
      | [] => [[c]]
      | part :: parts => (c :: part) :: parts

/-- The character at which a text is cut occurs in none of the parts. -/
theorem not_mem_of_mem_splitAt {mark : Char} {cs part : List Char} (h : part ∈ splitAt mark cs) : mark ∉ part := by
  induction cs generalizing part with
  | nil => simp_all [splitAt]
  | cons c cs ih =>
    unfold splitAt at h
    split at h
    · rcases List.mem_cons.1 h with rfl | h
      · exact List.not_mem_nil
      · exact ih h
    · rename_i differs
      split at h
      · rw [List.mem_singleton.1 h]
        simpa using fun e : mark = c => differs e.symm
      · rename_i first parts whole
        rcases List.mem_cons.1 h with rfl | h
        · have := ih (whole ▸ List.mem_cons_self : first ∈ splitAt mark cs)
          simpa [this] using fun e : mark = c => differs e.symm
        · exact ih (whole ▸ List.mem_cons_of_mem _ h)

/-- A text without the character at which it is cut is one part. -/
theorem splitAt_of_notMem {mark : Char} {cs : List Char} (h : mark ∉ cs) : splitAt mark cs = [cs] := by
  induction cs with
  | nil => rfl
  | cons c cs ih =>
    rw [List.mem_cons, not_or] at h
    rw [splitAt, if_neg fun e => h.1 e.symm, ih h.2]

end CommandTree.Text
