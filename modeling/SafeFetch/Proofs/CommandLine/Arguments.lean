import SafeFetch.CommandLine.Arguments
import SafeFetch.Proofs.Path

/-!
# Arguments that were read

What holds of the arguments of every command line that can be run: its directory has a path of
proper names, whether it was given or comes from the settings, and there are URLs, in the order of
the words.

## Main results

* `exists_of_parse`: arguments that are run were collected from the words;
* `sublist_of_parse`: the URLs stand among the words in their order;
* `isProper_of_parse`: the directory of a run has proper names.
-/

namespace SafeFetch.CommandLine

variable {settings : Settings} {words : List String} {arguments : Arguments} {c c' : Collected}

namespace Collected

/-- The directory that the arguments give, if they give one, has proper names. -/
def IsProper (c : Collected) : Prop :=
  ∀ directory, c.arguments.destination = .given directory → directory.IsProper

/-- Taking the waiting words leaves the directory alone. -/
theorem IsProper.settle (proper : c.IsProper) : c.settle.IsProper := by
  rw [Collected.settle]
  dsimp only
  split
  · exact proper
  · exact proper

/-- An option that is set leaves the directory alone, or gives one that was read. -/
theorem IsProper.set (proper : c.IsProper) (name : OptionName) (value : OptionValue String) :
    (c.set name value).IsProper := by
  cases name with
  | dest =>
    intro directory given
    cases value with
    | given text =>
      obtain rfl := OptionValue.given.inj given
      exact Path.isProper_ofText text
    | withheld => cases given
  | help => exact proper
  | force => exact proper
  | algorithm => exact proper
  | checksum => exact proper
  | manifest => exact proper

end Collected

/-- Collecting arguments keeps the directory proper. -/
theorem Collected.IsProper.collect {words : List Word} (proper : c.IsProper)
    (collected : collect c words = .ok c') : c'.IsProper := by
  fun_induction CommandLine.collect c words with
  | case1 c =>
    obtain rfl := Except.ok.inj collected
    exact proper.settle
  -- Plain words and dividers wait.
  | case2 _ _ _ ih | case3 _ _ ih => exact ih proper collected
  | case4 _ _ _ _ ih => exact ih proper.settle collected
  -- The options that take a value, before an equals sign or the value itself.
  | case8 _ name value _ _ ih => exact ih (proper.settle.set name _) collected
  | case10 _ name value _ _ ih => exact ih (proper.settle.set name _) collected
  -- The options that take none, before a plain word or anything else.
  | case12 _ name _ _ _ _ ih => exact ih (proper.settle.set name _) collected
  | case15 _ name _ _ _ _ ih => exact ih (proper.settle.set name _) collected
  | case5 | case6 | case7 | case9 | case11 | case13 | case14 => cases collected

/-- Words that cannot be collected are not run. -/
theorem stop_ne_run {words : List Word} {stop : Stop} (stopped : collect c words = .error stop)
    (arguments : Arguments) : stop ≠ .run arguments := by
  fun_induction CommandLine.collect c words with
  | case1 => cases stopped
  | case2 _ _ _ ih | case3 _ _ ih | case4 _ _ _ _ ih => exact ih stopped
  | case8 _ _ _ _ _ ih | case10 _ _ _ _ _ ih => exact ih stopped
  | case12 _ _ _ _ _ _ ih | case15 _ _ _ _ _ _ ih => exact ih stopped
  -- Help is asked for, or the words are refused.
  | case5 | case6 | case7 | case9 | case11 | case13 | case14 =>
    obtain rfl := Except.error.inj stopped
    simp [ignoredValue]

/-- Arguments that are run have a URL. -/
theorem Collected.of_request (requested : c.request = .run arguments) :
    c.arguments = arguments ∧ arguments.urls ≠ [] := by
  rw [Collected.request] at requested
  split at requested
  · cases requested
  next some =>
    repeat' split at requested
    all_goals cases requested
    exact ⟨rfl, by simpa using some⟩

/-- Arguments that are run were collected from the words. -/
theorem exists_of_parse (parsed : parse settings words = .run arguments) :
    ∃ classified c, classify words = .ok classified ∧
      collect (initial settings) classified = .ok c ∧ c.arguments = arguments ∧
        arguments.urls ≠ [] := by
  rw [parse] at parsed
  split at parsed
  · cases parsed
  next classified classifies =>
    split at parsed
    next stop stopped => exact absurd parsed (stop_ne_run stopped arguments)
    next c collected => exact ⟨classified, c, classifies, collected, c.of_request parsed⟩

/-- The directory that an environment sets has proper names. -/
theorem isProper_ofEnvironment (environment : List (String × String)) :
    (Settings.ofEnvironment environment).destination.IsProper := by
  rw [Settings.ofEnvironment]
  cases Settings.lookUp? environment Settings.destinationVariable with
  | none => exact Path.isProper_ofText "downloads"
  | some text => exact Path.isProper_ofText text

/-- The directory of a run has proper names, whether it is given or the environment sets it. -/
theorem isProper_of_parse {environment : List (String × String)} {directory : Path}
    (made : settings = .ofEnvironment environment)
    (parsed : parse settings words = .run arguments)
    (given : arguments.destination = .given directory) : directory.IsProper := by
  obtain ⟨classified, c, -, collected, rfl, -⟩ := exists_of_parse parsed
  have start : (initial settings).IsProper := by
    intro directory given
    obtain rfl := OptionValue.given.inj given
    rw [made]
    exact isProper_ofEnvironment environment
  exact start.collect collected directory given

/-! ## URLs -/

/-- The text of a plain word. -/
def plainText? : Word → Option String
  | .plain s => some s
  | _ => none

@[simp]
theorem plainText?_plain (s : String) : plainText? (.plain s) = some s := rfl

@[simp]
theorem plainText?_divider : plainText? .divider = none := rfl

/-- A plain word is the word that it was read from. -/
theorem eq_of_classifyOne {word s : String} (classifies : classifyOne word = .ok (.plain s)) :
    s = word := by
  -- Only a word that looks like an option is taken apart, and then none of it is left plain.
  have unnamed (s' : List Char) (name : OptionName) (value : Option (List Char)) :
      named s' name value ≠ .plain s := by
    rw [named]
    split
    · nofun
    · nofun
  have whole {s' : List Char} (approximates : approximate s' = .ok (.plain s)) :
      s = String.ofList s' := by
    rw [approximate] at approximates
    dsimp only at approximates
    repeat' split at approximates
    all_goals cases approximates
    all_goals rfl
  rw [classifyOne] at classifies
  split at classifies
  · exact (Word.plain.inj (Except.ok.inj classifies)).symm
  · split at classifies
    · exact absurd (Except.ok.inj classifies) (unnamed _ _ _)
    · split at classifies
      · exact (Word.plain.inj (Except.ok.inj classifies)).symm
      · split at classifies
        · split at classifies
          · exact absurd (Except.ok.inj classifies) (unnamed _ _ _)
          · simpa using whole classifies
        · simpa using whole classifies

/-- The plain words stand among the words in their order. -/
theorem sublist_of_classify {classified : List Word} (classifies : classify words = .ok classified) :
    (classified.filterMap plainText?).Sublist words := by
  induction words generalizing classified with
  | nil =>
    obtain rfl := Except.ok.inj classifies
    exact .slnil
  | cons word rest ih =>
    rw [classify] at classifies
    split at classifies
    · obtain rfl := Except.ok.inj classifies
      have same : (rest.map Word.plain).filterMap plainText? = rest := by
        simp [List.filterMap_map, Function.comp_def, plainText?]
      rw [List.filterMap_cons_none rfl, same]
      exact List.sublist_cons_self word rest
    · cases first : classifyOne word with
      | error message =>
        rw [first] at classifies
        cases classifies
      | ok front =>
        cases others : classify rest with
        | error message =>
          rw [first, others] at classifies
          cases classifies
        | ok back =>
          rw [first, others] at classifies
          obtain rfl := Except.ok.inj classifies
          cases front with
          | plain s =>
            obtain rfl := eq_of_classifyOne first
            exact (ih others).cons_cons s
          | _ => exact (ih others).cons word

namespace Collected

/-- The plain words among those that wait, in their order. -/
def pending (c : Collected) : List String := c.waiting.reverse.filterMap plainText?

/-- Nothing waits but plain words and dividers. -/
def IsWaiting (c : Collected) : Prop := ∀ word ∈ c.waiting, word = .divider ∨ ∃ s, word = .plain s

/-- When the waiting words are taken, none is left, and no URLs are there but those that were there
or have waited. -/
theorem sublist_settle (waits : c.IsWaiting) :
    c.settle.waiting = [] ∧
      c.settle.arguments.urls.Sublist (c.arguments.urls ++ c.pending) := by
  rw [Collected.settle]
  dsimp only
  split
  next isUrls =>
    have texts : ((c.waiting.reverse.filter (· ≠ .divider)).map wordText) = c.pending := by
      rw [pending]
      have plain : ∀ word ∈ c.waiting.reverse, word = .divider ∨ ∃ s, word = .plain s :=
        fun word isIn => waits word (List.mem_reverse.mp isIn)
      generalize c.waiting.reverse = waiting at plain
      induction waiting with
      | nil => rfl
      | cons word rest ih =>
        obtain ⟨here, later⟩ := List.forall_mem_cons.mp plain
        rcases here with rfl | ⟨s, rfl⟩
        · simpa [List.filterMap_cons] using ih later
        · simpa [List.filterMap_cons, wordText] using ih later
    rw [texts]
    exact ⟨rfl, List.sublist_append_right _ _⟩
  next => exact ⟨rfl, List.sublist_append_left _ _⟩

/-- An option leaves the URLs alone. -/
theorem urls_set (c : Collected) (name : OptionName) (value : OptionValue String) :
    (c.set name value).arguments.urls = c.arguments.urls := by
  cases name <;> rfl

/-- An option leaves the waiting words alone. -/
theorem waiting_set (c : Collected) (name : OptionName) (value : OptionValue String) :
    (c.set name value).waiting = c.waiting := by
  cases name <;> rfl

/-- Once the waiting words are taken, nothing waits. -/
theorem isWaiting_of_nil (none : c.waiting = []) : c.IsWaiting := by
  intro word isIn
  rw [none] at isIn
  cases isIn

/-- What is collected onward from taken words stands in the order of all words. -/
theorem sublist_onward {urls texts rest : List String} {settled : Collected} (waits : c.IsWaiting)
    (same : settled.arguments.urls = c.settle.arguments.urls)
    (isLater : (settled.pending ++ texts).Sublist rest)
    (onward : urls.Sublist (settled.arguments.urls ++ settled.pending ++ texts)) :
    urls.Sublist (c.arguments.urls ++ c.pending ++ rest) := by
  have earlier := (sublist_settle waits).2
  rw [← same] at earlier
  rw [List.append_assoc] at onward
  exact onward.trans (earlier.append isLater)

/-- So it does if no word waits beside the taken ones. -/
theorem sublist_taken {urls texts rest : List String} {settled : Collected} (waits : c.IsWaiting)
    (same : settled.arguments.urls = c.settle.arguments.urls)
    (taken : settled.waiting = c.settle.waiting) (isLater : texts.Sublist rest)
    (onward : settled.IsWaiting →
      urls.Sublist (settled.arguments.urls ++ settled.pending ++ texts)) :
    urls.Sublist (c.arguments.urls ++ c.pending ++ rest) := by
  have none : settled.waiting = [] := taken.trans (sublist_settle waits).1
  refine sublist_onward waits same ?_ (onward (isWaiting_of_nil none))
  simpa [pending, none] using isLater

end Collected

/-- The URLs that are collected were there, or stand among the words in their order. -/
theorem sublist_of_collect {words : List Word} (waits : c.IsWaiting)
    (collected : collect c words = .ok c') :
    c'.arguments.urls.Sublist (c.arguments.urls ++ c.pending ++ words.filterMap plainText?) := by
  fun_induction CommandLine.collect c words with
  | case1 c =>
    obtain rfl := Except.ok.inj collected
    simpa using (Collected.sublist_settle waits).2
  -- Plain words and dividers wait.
  | case2 c s rest ih =>
    have waits' : Collected.IsWaiting { c with waiting := .plain s :: c.waiting } := by
      intro word isIn
      rcases List.mem_cons.mp isIn with rfl | isIn
      · exact .inr ⟨s, rfl⟩
      · exact waits word isIn
    simpa [Collected.pending, List.filterMap_cons] using ih waits' collected
  | case3 c rest ih =>
    have waits' : Collected.IsWaiting { c with waiting := .divider :: c.waiting } := by
      intro word isIn
      rcases List.mem_cons.mp isIn with rfl | isIn
      · exact .inl rfl
      · exact waits word isIn
    simpa [Collected.pending, List.filterMap_cons] using ih waits' collected
  -- Any other word takes those that wait, and the options leave the URLs alone.
  | case4 c s rest settled ih =>
    exact Collected.sublist_taken waits rfl rfl (.refl _) fun waits' => ih waits' collected
  | case8 c name value rest takes ih =>
    exact Collected.sublist_taken waits (Collected.urls_set _ _ _) (Collected.waiting_set _ _ _)
      (.refl _) fun waits' => ih waits' collected
  | case15 c name rest _ takes other ih =>
    exact Collected.sublist_taken waits (Collected.urls_set _ _ _) (Collected.waiting_set _ _ _)
      (.refl _) fun waits' => ih waits' collected
  -- The value of an option is no URL.
  | case10 c name value rest takes ih =>
    exact Collected.sublist_taken waits (Collected.urls_set _ _ _) (Collected.waiting_set _ _ _)
      (List.sublist_cons_self value _) fun waits' => ih waits' collected
  -- Behind an option without a value the next plain word waits.
  | case12 c name value rest takes other ih =>
    refine Collected.sublist_onward waits ?_ ?_ (ih ?_ collected)
    · exact Collected.urls_set _ _ _
    · simp [Collected.pending, List.filterMap_cons, plainText?]
    · intro word isIn
      exact .inr ⟨value, List.mem_singleton.mp isIn⟩
  | case5 | case6 | case7 | case9 | case11 | case13 | case14 => cases collected

/-- The URLs of arguments that are run stand among the words in their order. -/
theorem sublist_of_parse (parsed : parse settings words = .run arguments) :
    arguments.urls.Sublist words := by
  obtain ⟨classified, c, classifies, collected, rfl, -⟩ := exists_of_parse parsed
  have urls := sublist_of_collect (Collected.isWaiting_of_nil rfl) collected
  exact urls.trans (sublist_of_classify classifies)

end SafeFetch.CommandLine
