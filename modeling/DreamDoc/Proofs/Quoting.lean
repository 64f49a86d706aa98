import DreamDoc.Loader

namespace DreamDoc.ShellWords

theorem enter_of_isSafe {c : Char} (safe : isSafe c = true) (word : List Char) :
    isBlank c = false ∧ enter word c = .plain (c :: word) := by
  have apart : ∀ d : Char, isSafe d = false → c ≠ d := by
    rintro d special rfl
    simp [safe] at special
  have single := apart '\x27' rfl
  have double := apart '\x22' rfl
  have backslash := apart '\x5c' rfl
  have blank : c ≠ ' ' ∧ c ≠ '\t' ∧ c ≠ '\n' ∧ c ≠ '\r' :=
    ⟨apart _ rfl, apart _ rfl, apart _ rfl, apart _ rfl⟩
  constructor
  · simp [isBlank, blank]
  · simp [enter, single, double, backslash]

theorem splitFrom_plain_safe {chars : List Char} (safe : ∀ c ∈ chars, isSafe c = true)
    (word rest : List Char) :
    splitFrom (.plain word) (chars ++ rest) = splitFrom (.plain (chars.reverse ++ word)) rest := by
  induction chars generalizing word with
  | nil => rfl
  | cons c chars ih =>
    obtain ⟨first, others⟩ := List.forall_mem_cons.mp safe
    obtain ⟨blank, entered⟩ := enter_of_isSafe first word
    rw [List.cons_append, splitFrom, if_neg (by simp [blank]), entered, ih others]
    simp

def quoted (chars : List Char) : List Char :=
  chars.flatMap fun c =>
    if c = '\x27' then ['\x27', '\x22', '\x27', '\x22', '\x27'] else [c]

theorem splitFrom_single_quoted (chars word rest : List Char) :
    splitFrom (.single word) (quoted chars ++ '\x27' :: rest) =
      splitFrom (.plain (chars.reverse ++ word)) rest := by
  induction chars generalizing word with
  | nil => rfl
  | cons c chars ih =>
    have again : (c :: chars).reverse ++ word = chars.reverse ++ c :: word := by simp
    rw [again, ← ih]
    by_cases quote : c = '\x27'
    · -- The quotation is left, the quote is taken between double quotes, and a new one begins.
      subst quote
      rfl
    · simp [quoted, quote, splitFrom]

theorem splitFrom_between_quote (word : String) (rest : List Char) :
    splitFrom .between ((quote word).toList ++ rest) =
      splitFrom (.plain word.toList.reverse) rest := by
  by_cases bare : word ≠ "" ∧ word.toList.all isSafe
  · have safe : ∀ c ∈ word.toList, isSafe c = true := List.all_eq_true.mp bare.2
    rw [quote, if_pos bare]
    cases chars : word.toList with
    | nil => exact absurd (String.toList_eq_nil_iff.mp chars) bare.1
    | cons c others =>
      rw [chars] at safe
      obtain ⟨first, others⟩ := List.forall_mem_cons.mp safe
      obtain ⟨blank, entered⟩ := enter_of_isSafe first []
      rw [List.cons_append, splitFrom, if_neg (by simp [blank]), entered,
        splitFrom_plain_safe others]
      simp
  · have opened := splitFrom_single_quoted word.toList [] rest
    rw [List.append_nil] at opened
    rw [quote, if_neg bare, ← opened]
    simp [splitFrom, isBlank, enter, quoted]

theorem toList_join_cons (word next : String) (rest : List String) :
    (join (word :: next :: rest)).toList =
      (quote word).toList ++ ' ' :: (join (next :: rest)).toList := by
  simp [join, String.intercalate_cons_cons]

theorem split_join (words : List String) : split (join words) = .ok words := by
  unfold split
  induction words with
  | nil => rfl
  | cons word rest ih =>
    have whole : finish word.toList.reverse = word := by simp [finish]
    cases rest with
    | nil =>
      have alone : (join [word]).toList = (quote word).toList ++ [] := by simp [join]
      rw [alone, splitFrom_between_quote, splitFrom, whole]
    | cons next rest =>
      have ended : isBlank ' ' = true := rfl
      rw [toList_join_cons, splitFrom_between_quote, splitFrom, if_pos ended, ih, whole]
      rfl

end DreamDoc.ShellWords

namespace DreamDoc.Loader

/-- A command line that was joined from words runs exactly these words, with the source as the last
one, unless the system refuses them. What is noted about the run splits into these words. -/
theorem command_of_joined (program : String) (arguments : List String) :
    (Command.line (ShellWords.join (program :: arguments))).loader =
        .ok (.command program arguments) ∧
      ∀ (start : List String → ProcessOutcome) (source : Path) (world : World),
        let words := program :: arguments ++ [source.toString]
        ∃ noted, (Loader.command program arguments).load start source world =
            ({ world with
                journal := world.journal ++ [⟨.info, "Running parser: " ++ noted⟩]
                calls := if (start words).isRefused then world.calls else world.calls ++ [words] },
              ofOutcome program (start words)) ∧
          ShellWords.split noted = .ok words := by
  constructor
  · rw [Command.loader, Command.words?, ShellWords.split_join]
  · intro start source world words
    exact ⟨ShellWords.join words, rfl, ShellWords.split_join words⟩

end DreamDoc.Loader
