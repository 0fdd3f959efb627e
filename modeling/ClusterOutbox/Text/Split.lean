namespace ClusterOutbox

/-- The parts of a text between its marks, one more than there are marks. -/
def splitWhere (isMark : Char → Bool) : List Char → List (List Char)
  | [] => [[]]
  | c :: rest =>
    match splitWhere isMark rest with
    | part :: parts => if isMark c then [] :: part :: parts else (c :: part) :: parts
    | [] => [[c]]

theorem splitWhere_ne_nil (isMark : Char → Bool) (cs : List Char) : splitWhere isMark cs ≠ [] := by
  cases cs with
  | nil => simp [splitWhere]
  | cons c rest =>
    unfold splitWhere
    split
    · split <;> simp
    · simp

theorem splitWhere_of_unmarked {isMark : Char → Bool} {cs : List Char}
    (h : ∀ c ∈ cs, isMark c = false) : splitWhere isMark cs = [cs] := by
  induction cs with
  | nil => rfl
  | cons c rest ih =>
    rw [splitWhere, ih fun d hd => h d (List.mem_cons_of_mem c hd)]
    simp [h c List.mem_cons_self]

theorem splitWhere_append_mark {isMark : Char → Bool} {cs : List Char} {mark : Char}
    (h : ∀ c ∈ cs, isMark c = false) (hm : isMark mark = true) (rest : List Char) :
    splitWhere isMark (cs ++ mark :: rest) = cs :: splitWhere isMark rest := by
  induction cs with
  | nil =>
    obtain ⟨part, parts, hr⟩ := List.exists_cons_of_ne_nil (splitWhere_ne_nil isMark rest)
    simp [splitWhere, hr, hm]
  | cons c cs ih =>
    rw [List.cons_append, splitWhere, ih fun d hd => h d (List.mem_cons_of_mem c hd)]
    simp [h c List.mem_cons_self]

end ClusterOutbox
