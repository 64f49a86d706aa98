import DreamDoc.CommandLine.Basic

namespace DreamDoc

namespace Text

theorem mem_of_mem_splitAt {sep c : Char} {text piece : List Char}
    (member : piece ∈ splitAt sep text) (inside : c ∈ piece) : c ∈ text := by
  induction text generalizing piece with
  | nil => simp_all [splitAt]
  | cons first rest ih =>
    obtain ⟨next, others, split⟩ := List.exists_cons_of_ne_nil (splitAt_ne_nil sep rest)
    grind [splitAt]

theorem splitAt_append_left {sep : Char} {front : List Char} (absent : sep ∉ front)
    (rest : List Char) :
    ∃ piece pieces, splitAt sep (front ++ rest) = (front ++ piece) :: pieces := by
  induction front with
  | nil => exact List.exists_cons_of_ne_nil (splitAt_ne_nil sep rest)
  | cons c front ih =>
    simp only [List.mem_cons, not_or] at absent
    obtain ⟨piece, pieces, split⟩ := ih absent.2
    exact ⟨piece, pieces, by simp [splitAt, Ne.symm absent.1, split]⟩

end Text

theorem Emoji.showCodesAfter_blank {rest : List Char}
    (apart : rest.head?.all Text.isBlank = true) :
    showCodesAfter (some []) rest = ':' :: showCodesAfter none rest := by
  cases rest with
  | nil => rfl
  | cons c rest =>
    have blank : Text.isBlank c = true := by simpa using apart
    have other : c ≠ ':' := by
      rintro rfl
      revert blank
      decide
    simp [showCodesAfter, other, blank]

namespace Terminal

/-- Whether the printer finds nothing to act on: no bracket begins a tag, no colon a code, and no
blank ends a line, which would be lost beyond the width of some terminals. -/
def isVerbatim : List Char → Bool
  | [] => true
  | c :: rest =>
    c ≠ '\x5c' && c ≠ '\t' && !isDropped c && (c ≠ '[' || !rest.head?.any startsTag) &&
      (c ≠ ':' || rest.head?.all Text.isBlank) &&
      (c = '\n' || !Text.isBlank c || rest.head? ≠ some '\n') && isVerbatim rest

variable {text front : List Char}

theorem mem_of_isVerbatim {c : Char} (verbatim : isVerbatim text = true) (member : c ∈ text) :
    c ≠ '\x5c' ∧ c ≠ '\t' ∧ isDropped c = false := by
  induction text with
  | nil => cases member
  | cons first rest ih =>
    simp only [isVerbatim, Bool.and_eq_true, decide_eq_true_eq, Bool.not_eq_true'] at verbatim
    obtain ⟨⟨⟨⟨⟨⟨plain, tab⟩, kept⟩, -⟩, -⟩, -⟩, later⟩ := verbatim
    cases member with
    | head => exact ⟨plain, tab, kept⟩
    | tail _ member => exact ih later member

theorem protectEnd_of_isVerbatim (verbatim : isVerbatim text = true) : protectEnd text = text := by
  have unprotected (rest : List Char) : text.reverse ≠ '\x5c' :: rest := by
    intro ends
    have member : '\x5c' ∈ text.reverse := ends ▸ List.mem_cons_self
    exact (mem_of_isVerbatim verbatim (List.mem_reverse.mp member)).1 rfl
  unfold protectEnd
  split
  · rfl
  · rename_i ends
    exact absurd ends (unprotected _)
  · rfl

theorem opensTag_of_head {beyond : Option Char} (apart : text.head?.any startsTag = false) :
    opensTag beyond text = false := by
  cases text with
  | nil => rfl
  | cons c rest => simp_all [opensTag]

theorem pieces_of_isVerbatim {beyond : Option Char} {done : List Char}
    (verbatim : isVerbatim text = true) :
    pieces beyond done false text = [done.reverse ++ text] := by
  induction text generalizing done with
  | nil => simp [pieces]
  | cons c rest ih =>
    simp only [isVerbatim, Bool.and_eq_true, decide_eq_true_eq, Bool.or_eq_true,
      Bool.not_eq_true'] at verbatim
    obtain ⟨⟨⟨⟨⟨⟨plain, -⟩, -⟩, tag⟩, -⟩, -⟩, later⟩ := verbatim
    have onward : pieces beyond (c :: done) false rest = [done.reverse ++ c :: rest] := by
      simp [ih later]
    by_cases opening : c = '['
    · subst opening
      have none : opensTag beyond rest = false := opensTag_of_head (tag.resolve_left (· rfl))
      simpa [pieces, none] using onward
    · by_cases closing : c = ']'
      · subst closing
        simpa [pieces] using onward
      · rw [pieces, onward] <;> grind

theorem showCodes_of_isVerbatim (verbatim : isVerbatim text = true) :
    Emoji.showCodes text = text := by
  unfold Emoji.showCodes
  induction text with
  | nil => rfl
  | cons c rest ih =>
    simp only [isVerbatim, Bool.and_eq_true, decide_eq_true_eq, Bool.or_eq_true] at verbatim
    obtain ⟨⟨⟨-, code⟩, -⟩, later⟩ := verbatim
    by_cases colon : c = ':'
    · rw [Emoji.showCodesAfter, if_pos colon,
        Emoji.showCodesAfter_blank (code.resolve_left (· colon)), ih later, colon]
    · rw [Emoji.showCodesAfter, if_neg colon, ih later]

theorem showMessage_of_isVerbatim {beyond : Option Char} (verbatim : isVerbatim text = true) :
    showMessage beyond text = text := by
  rw [showMessage, protectEnd_of_isVerbatim verbatim, pieces_of_isVerbatim verbatim]
  simp [showCodes_of_isVerbatim verbatim]

theorem isVerbatim_left {rest : List Char} (verbatim : isVerbatim (text ++ rest) = true) :
    isVerbatim text = true := by
  induction text with
  | nil => rfl
  | cons c tail ih =>
    simp only [List.cons_append, isVerbatim, Bool.and_eq_true] at verbatim ⊢
    obtain ⟨⟨⟨⟨plain, tag⟩, code⟩, ended⟩, later⟩ := verbatim
    -- What follows the last character may be missing, which none of the conditions minds.
    cases tail with
    | nil => exact ⟨⟨⟨⟨plain, by simp⟩, by simp⟩, by simp⟩, rfl⟩
    | cons next tail => exact ⟨⟨⟨⟨plain, tag⟩, code⟩, ended⟩, ih later⟩

theorem isVerbatim_right (verbatim : isVerbatim (front ++ text) = true) :
    isVerbatim text = true := by
  induction front with
  | nil => exact verbatim
  | cons c tail ih =>
    simp only [List.cons_append, isVerbatim, Bool.and_eq_true] at verbatim
    exact ih verbatim.2

theorem expandTabs_eq_self (absent : '\t' ∉ text) : expandTabs text = text := by
  have single : ∀ line ∈ Text.splitAt '\n' text, fillTabs 0 (Text.splitAt '\t' line) = line := by
    intro line member
    rw [Text.splitAt_eq_singleton fun tab => absent (Text.mem_of_mem_splitAt member tab), fillTabs]
  rw [expandTabs, List.map_congr_left single, List.map_id', Text.joinWith_splitAt]

theorem display_eq_self (verbatim : isVerbatim text = true) :
    display text = String.ofList text := by
  have kept : text.filter (fun c => !isDropped c) = text :=
    List.filter_eq_self.mpr fun c member => by simp [(mem_of_isVerbatim verbatim member).2.2]
  rw [display, kept, expandTabs_eq_self fun tab => (mem_of_isVerbatim verbatim tab).2.1 rfl]

theorem display_showMessage {beyond : Option Char} (verbatim : isVerbatim (front ++ text) = true) :
    display (front ++ showMessage beyond text) = String.ofList front ++ String.ofList text := by
  rw [showMessage_of_isVerbatim (isVerbatim_right verbatim), display_eq_self verbatim,
    String.ofList_append]

theorem display_append (kept : front.all (fun c => !isDropped c) = true) (line : '\n' ∉ front)
    (tab : '\t' ∉ front) (rest : List Char) :
    ∃ shown, display (front ++ rest) = String.ofList front ++ shown := by
  have filtered : (front ++ rest).filter (fun c => !isDropped c) =
      front ++ rest.filter fun c => !isDropped c := by
    rw [List.filter_append, List.filter_eq_self.mpr (List.all_eq_true.mp kept)]
  obtain ⟨piece, lines, split⟩ :=
    Text.splitAt_append_left line (rest.filter fun c => !isDropped c)
  obtain ⟨part, parts, columns⟩ := Text.splitAt_append_left tab piece
  have begins : ∃ shown, expandTabs (front ++ rest.filter fun c => !isDropped c) =
      front ++ shown := by
    rw [expandTabs, split, List.map_cons, columns]
    cases parts <;> cases lines <;> simp [fillTabs, Text.joinWith]
  obtain ⟨shown, expanded⟩ := begins
  exact ⟨String.ofList shown, by rw [display, filtered, expanded, String.ofList_append]⟩

end Terminal

namespace CommandLine

def lineEnd : Failure → String
  | .invalidDump _ _ => ""
  | _ => "\n"

def plainLine (failure : Failure) : String :=
  "    error: " ++ failure.message ++ lineEnd failure

theorem failureLine_starts (failure : Failure) :
    ∃ shown, failureLine failure = "    error: " ++ shown := by
  have starts (rest : List Char) : ∃ shown,
      Terminal.display ("    error: ".toList ++ rest) = "    error: " ++ shown :=
    Terminal.display_append (by decide) (by decide) (by decide) rest
  unfold failureLine
  split
  · exact starts _
  · obtain ⟨shown, displayed⟩ :=
      starts (Terminal.showMessage none failure.message.toList ++ "".toList)
    refine ⟨shown ++ "\n", ?_⟩
    rw [Terminal.line, List.append_assoc, displayed, String.append_assoc]

theorem failureLine_of_isVerbatim {failure : Failure}
    (verbatim : Terminal.isVerbatim (plainLine failure).toList = true) :
    failureLine failure = plainLine failure := by
  rw [plainLine, String.toList_append, String.toList_append] at verbatim
  have shown (beyond : Option Char) : Terminal.display ("    error: ".toList ++
      Terminal.showMessage beyond failure.message.toList) = "    error: " ++ failure.message := by
    rw [Terminal.display_showMessage (Terminal.isVerbatim_left verbatim), String.ofList_toList,
      String.ofList_toList]
  unfold failureLine
  split
  · rw [Terminal.lineStart, shown, plainLine, lineEnd, String.append_empty]
  · rename_i ended
    have newline : lineEnd failure = "\n" := by
      unfold lineEnd
      split
      · exact (ended _ _ rfl).elim
      · rfl
    rw [Terminal.line, String.toList_empty, List.append_nil, shown, plainLine, newline]

example : failureLine (.parserNotStarted "dump" 2 "No such file or directory") =
    "    error: could not run parser dump: [Errno 2] No such file or directory: 'dump'\n" := by
  decide +kernel

end CommandLine

end DreamDoc
