namespace DreamDoc.Text

def splitAt (sep : Char) : List Char → List (List Char)
  | [] => [[]]
  | c :: rest =>
    if c = sep then [] :: splitAt sep rest
    else match splitAt sep rest with
      | [] => [[c]]
      | piece :: pieces => (c :: piece) :: pieces

def joinWith (sep : Char) : List (List Char) → List Char
  | [] => []
  | [piece] => piece
  | piece :: pieces => piece ++ sep :: joinWith sep pieces

theorem splitAt_ne_nil (sep : Char) (text : List Char) : splitAt sep text ≠ [] := by
  cases text with
  | nil => simp [splitAt]
  | cons c rest => grind [splitAt]

theorem joinWith_splitAt (sep : Char) (text : List Char) :
    joinWith sep (splitAt sep text) = text := by
  induction text with
  | nil => rfl
  | cons c rest ih =>
    obtain ⟨piece, pieces, split⟩ := List.exists_cons_of_ne_nil (splitAt_ne_nil sep rest)
    rw [split] at ih
    by_cases here : c = sep
    · simp [splitAt, here, split, joinWith, ih]
    · cases pieces <;> simp_all [splitAt, joinWith]

theorem not_mem_of_mem_splitAt {sep : Char} {text piece : List Char}
    (member : piece ∈ splitAt sep text) : sep ∉ piece := by
  induction text generalizing piece with
  | nil => simp_all [splitAt]
  | cons c rest ih =>
    obtain ⟨first, others, split⟩ := List.exists_cons_of_ne_nil (splitAt_ne_nil sep rest)
    grind [splitAt]

theorem splitAt_eq_singleton {sep : Char} {text : List Char} (absent : sep ∉ text) :
    splitAt sep text = [text] := by
  induction text with
  | nil => rfl
  | cons c rest ih =>
    simp only [List.mem_cons, not_or] at absent
    rw [splitAt, if_neg (Ne.symm absent.1), ih absent.2]

theorem splitAt_append {sep : Char} {piece : List Char} (absent : sep ∉ piece)
    (rest : List Char) : splitAt sep (piece ++ sep :: rest) = piece :: splitAt sep rest := by
  induction piece with
  | nil => simp [splitAt]
  | cons c tail ih =>
    simp only [List.mem_cons, not_or] at absent
    rw [List.cons_append, splitAt, if_neg (Ne.symm absent.1), ih absent.2]

end DreamDoc.Text
