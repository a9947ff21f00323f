import ClassModel.CommandLine.Scan
import Mathlib

/-!
# How a command line reads

The forms an option and its value may be written in, apart from how the scanner goes about it.

* `CommandLine.Spells` — a word names an option and may give its value;
* `CommandLine.Reads` — the words of a level are options with their values and plain words, up to
  the name of a command;
* `CommandLine.Reads.unique` — words read in one way at most.
-/

namespace ClassModel.CommandLine

/-! ## Forms of options -/

/-- A word that begins with a dash names an option of a level, by its long form or its short form.
The value may follow an equals sign, and after a short form it may follow at once. -/
inductive Spells (level : Level) : List Char → Setting → Option (List Char) → Prop where
  | long {setting : Setting} (h : setting ∈ level.settings) :
      Spells level ('-' :: '-' :: setting.long.toList) setting none
  | longValue {setting : Setting} (h : setting ∈ level.settings) (value : List Char) :
      Spells level ('-' :: '-' :: (setting.long.toList ++ '=' :: value)) setting (some value)
  | short {setting : Setting} {letter : Char} (h : setting ∈ level.settings)
      (hletter : setting.short? = some letter) :
      Spells level ['-', letter] setting none
  | shortValue {setting : Setting} {letter first : Char} (h : setting ∈ level.settings)
      (hletter : setting.short? = some letter) (hfirst : first ≠ '=') (rest : List Char) :
      Spells level ('-' :: letter :: first :: rest) setting (some (first :: rest))
  | shortEquals {setting : Setting} {letter : Char} (h : setting ∈ level.settings)
      (hletter : setting.short? = some letter) (value : List Char) :
      Spells level ('-' :: letter :: '=' :: value) setting (some value)

/-- A word does not look like an option: it begins with no dash, or is nothing else. -/
def IsPlain (word : List Char) : Prop := word = ['-'] ∨ word.head? ≠ some '-'

/-- The value that follows the letter of an option. -/
def valueAfterLetter : List Char → Option (List Char)
  | [] => none
  | '=' :: value => some value
  | value => some value

/-- The option that a word names, and the value it gives. -/
def optionOf? (level : Level) (word : List Char) : Option (Setting × Option (List Char)) :=
  match word with
  | '-' :: '-' :: option =>
    let (name, value) := Taken.splitValue option
    (level.settings.find? fun setting => setting.long.toList = name).map (·, value)
  | '-' :: letter :: rest =>
    (level.settings.find? fun setting => setting.short? = some letter).map
      (·, valueAfterLetter rest)
  | _ => none

theorem forall_ne_equals {name : List Char} (h : '=' ∉ name) :
    ∀ c ∈ name, decide (c ≠ '=') = true := by
  intro c hc
  exact decide_eq_true fun heq => h (heq ▸ hc)

theorem splitValue_of_notMem {name : List Char} (h : '=' ∉ name) :
    Taken.splitValue name = (name, none) := by
  have hdrop : name.dropWhile (· ≠ '=') = [] :=
    List.dropWhile_eq_nil_iff.2 (forall_ne_equals h)
  rw [Taken.splitValue, hdrop]

theorem splitValue_append {name : List Char} (h : '=' ∉ name) (value : List Char) :
    Taken.splitValue (name ++ '=' :: value) = (name, some value) := by
  have hdrop : (name ++ '=' :: value).dropWhile (· ≠ '=') = '=' :: value := by
    rw [List.dropWhile_append_of_pos (forall_ne_equals h)]
    rfl
  have htake : (name ++ '=' :: value).takeWhile (· ≠ '=') = name := by
    rw [List.takeWhile_append_of_pos (forall_ne_equals h)]
    simp
  rw [Taken.splitValue, hdrop, htake]

theorem equals_notMem_long (setting : Setting) : '=' ∉ setting.long.toList := by
  cases setting <;> decide

theorem long_injective {first second : Setting} (h : first.long = second.long) :
    first = second := by
  revert h
  cases first <;> cases second <;> decide

theorem short?_injective {first second : Setting} {letter : Char}
    (hfirst : first.short? = some letter) (hsecond : second.short? = some letter) :
    first = second := by
  have h : first.short? = second.short? := hfirst.trans hsecond.symm
  have hsome : first.short? ≠ none := by rw [hfirst]; nofun
  revert h hsome
  cases first <;> cases second <;> decide

/-- Dashes are no letters of options. -/
theorem letter_ne_dash {setting : Setting} {letter : Char} (h : setting.short? = some letter) :
    letter ≠ '-' := by
  rintro rfl
  revert h
  cases setting <;> decide

/-- What only one option meets finds the option. -/
theorem find?_only {settings : List Setting} {setting : Setting} (h : setting ∈ settings)
    {p : Setting → Bool} (hp : p setting) (honly : ∀ other, p other → other = setting) :
    settings.find? p = some setting := by
  cases hfind : settings.find? p with
  | none => exact absurd hp (List.find?_eq_none.1 hfind setting h)
  | some other => rw [honly other (List.find?_some hfind)]

variable {level : Level} {word : List Char} {setting : Setting} {value : Option (List Char)}

theorem find?_long (h : setting ∈ level.settings) :
    (level.settings.find? fun other => other.long.toList = setting.long.toList) = some setting := by
  refine find?_only h (by simp) ?_
  intro other hother
  exact long_injective (String.toList_injective (of_decide_eq_true hother))

theorem find?_short {letter : Char} (h : setting ∈ level.settings)
    (hletter : setting.short? = some letter) :
    (level.settings.find? fun other => other.short? = some letter) = some setting := by
  refine find?_only h (by simp [hletter]) ?_
  intro other hother
  exact short?_injective (of_decide_eq_true hother) hletter

theorem optionOf?_of_spells (h : Spells level word setting value) :
    optionOf? level word = some (setting, value) := by
  cases h with
  | long hmem =>
    simp [optionOf?, splitValue_of_notMem (equals_notMem_long setting), find?_long hmem]
  | longValue hmem value =>
    simp [optionOf?, splitValue_append (equals_notMem_long setting), find?_long hmem]
  | short hmem hletter =>
    simp [optionOf?, letter_ne_dash hletter, find?_short hmem hletter, valueAfterLetter]
  | shortValue hmem hletter hfirst rest =>
    simp [optionOf?, letter_ne_dash hletter, find?_short hmem hletter, valueAfterLetter, hfirst]
  | shortEquals hmem hletter value =>
    simp [optionOf?, letter_ne_dash hletter, find?_short hmem hletter, valueAfterLetter]

theorem spells_of_optionOf? (h : optionOf? level word = some (setting, value)) :
    Spells level word setting value := by
  unfold optionOf? at h
  split at h
  · next option =>
    -- The option's name goes up to the first equals sign, if there is one.
    by_cases hequals : '=' ∈ option
    · rcases List.eq_append_cons_of_mem hequals with ⟨name, given, rfl, hname⟩
      rw [splitValue_append hname] at h
      rcases Option.map_eq_some_iff.1 h with ⟨found, hfind, hpair⟩
      rcases Prod.mk.inj hpair with ⟨rfl, rfl⟩
      have hlong : found.long.toList = name := by simpa using List.find?_some hfind
      rw [← hlong]
      exact .longValue (List.mem_of_find?_eq_some hfind) given
    · rw [splitValue_of_notMem hequals] at h
      rcases Option.map_eq_some_iff.1 h with ⟨found, hfind, hpair⟩
      rcases Prod.mk.inj hpair with ⟨rfl, rfl⟩
      have hlong : found.long.toList = option := by simpa using List.find?_some hfind
      rw [← hlong]
      exact .long (List.mem_of_find?_eq_some hfind)
  · next letter rest _ =>
    rcases Option.map_eq_some_iff.1 h with ⟨found, hfind, hpair⟩
    rcases Prod.mk.inj hpair with ⟨rfl, hvalue⟩
    have hmem := List.mem_of_find?_eq_some hfind
    have hletter : found.short? = some letter := by simpa using List.find?_some hfind
    subst hvalue
    unfold valueAfterLetter
    split
    · exact .short hmem hletter
    · next given => exact .shortEquals hmem hletter given
    · next hempty hequals =>
      cases rest with
      | nil => exact absurd rfl hempty
      | cons first rest =>
        have hfirst : first ≠ '=' := fun heq => hequals rest (by rw [heq])
        exact .shortValue hmem hletter hfirst rest
  · cases h

theorem Spells.unique {other : Setting} {given : Option (List Char)}
    (h : Spells level word setting value) (h' : Spells level word other given) :
    setting = other ∧ value = given := by
  have heq := (optionOf?_of_spells h).symm.trans (optionOf?_of_spells h')
  exact Prod.mk.inj (Option.some.inj heq)

/-- A plain word names no option. -/
theorem optionOf?_of_isPlain (h : IsPlain word) : optionOf? level word = none := by
  rcases h with rfl | hhead
  · rfl
  · unfold optionOf?
    split
    · simp at hhead
    · simp at hhead
    · rfl

theorem Spells.not_isPlain (h : Spells level word setting value) : ¬ IsPlain word := by
  intro hplain
  have hnone : optionOf? level word = none := optionOf?_of_isPlain hplain
  rw [optionOf?_of_spells h] at hnone
  cases hnone

theorem Spells.ne_dashes (h : Spells level word setting value) : word ≠ ['-', '-'] := by
  intro heq
  cases h with
  | long =>
    revert heq
    cases setting <;> decide
  | longValue => simp at heq
  | short _ hletter => exact letter_ne_dash hletter (by simpa using heq)
  | shortValue => simp at heq
  | shortEquals => simp at heq

theorem not_isPlain_dashes : ¬ IsPlain "--".toList := by
  rintro (h | h)
  · exact absurd h (by decide)
  · exact h rfl

theorem isPlain_commandWord (name : CommandName) : IsPlain name.word.toList := by
  right
  cases name <;> decide

theorem word_injective {first second : CommandName} (h : first.word = second.word) :
    first = second := by
  revert h
  cases first <;> cases second <;> decide

/-! ## Levels -/

/-- What stands on a level. -/
inductive Item where
  | option (setting : Setting) (value : String)
  | plain (word : String)
deriving DecidableEq, Repr

/-- The words of a level read as options with their values and as plain words, up to the name of a
command or to the end. Plain words come after the name of a command only. A value in a word of its
own is itself plain to look at, and after two dashes all words are plain. -/
inductive Reads (level : Level) : List String → List Item → Rest → Prop where
  | done : Reads level [] [] none
  | command (htop : level.isTop) (name : CommandName) (words : List String) :
      Reads level (name.word :: words) [] (some (name, words))
  | dashes (words : List String) : Reads level ("--" :: words) (words.map .plain) none
  | given {word : String} {setting : Setting} {value : List Char} {words : List String}
      {items : List Item} {rest : Rest} (hword : Spells level word.toList setting (some value))
      (hrest : Reads level words items rest) :
      Reads level (word :: words) (.option setting (String.ofList value) :: items) rest
  | named {word value : String} {setting : Setting} {words : List String} {items : List Item}
      {rest : Rest} (hword : Spells level word.toList setting none) (hvalue : IsPlain value.toList)
      (hrest : Reads level words items rest) :
      Reads level (word :: value :: words) (.option setting value :: items) rest
  | plain {word : String} {words : List String} {items : List Item} {rest : Rest}
      (htop : ¬ level.isTop) (hword : IsPlain word.toList) (hrest : Reads level words items rest) :
      Reads level (word :: words) (.plain word :: items) rest

/-- Words read in one way at most: the first word decides what comes next. -/
theorem Reads.unique {level : Level} {words : List String} {items others : List Item}
    {rest rest' : Rest} (h : Reads level words items rest) (h' : Reads level words others rest') :
    items = others ∧ rest = rest' := by
  -- A word has one form, so both readings take it by the same rule and go on from the same place.
  induction h generalizing others with
  | done =>
    cases h' with
    | done => exact ⟨rfl, rfl⟩
  | command htop name words =>
    generalize hword : name.word = word at h'
    have hplain : IsPlain word.toList := hword ▸ isPlain_commandWord name
    cases h' with
    | command _ other => exact ⟨rfl, by rw [word_injective hword]⟩
    | dashes => exact absurd hplain not_isPlain_dashes
    | given hother => exact absurd hplain hother.not_isPlain
    | named hother => exact absurd hplain hother.not_isPlain
    | plain hnot => exact absurd htop hnot
  | dashes words =>
    generalize hword : "--" = word at h'
    have hnot : ¬ IsPlain word.toList := hword ▸ not_isPlain_dashes
    cases h' with
    | command _ other => exact absurd (isPlain_commandWord other) hnot
    | dashes => exact ⟨rfl, rfl⟩
    | given hother => exact absurd (by rw [← hword]; rfl) hother.ne_dashes
    | named hother => exact absurd (by rw [← hword]; rfl) hother.ne_dashes
    | plain _ hother => exact absurd hother hnot
  | given hword _ ih =>
    cases h' with
    | command _ other => exact absurd (isPlain_commandWord other) hword.not_isPlain
    | dashes => exact absurd rfl hword.ne_dashes
    | given hother hrest =>
      rcases hword.unique hother with ⟨rfl, hvalue⟩
      rcases ih hrest with ⟨rfl, rfl⟩
      exact ⟨by rw [Option.some.inj hvalue], rfl⟩
    | named hother => exact absurd (hword.unique hother).2 nofun
    | plain _ hother => exact absurd hother hword.not_isPlain
  | named hword _ _ ih =>
    cases h' with
    | command _ other => exact absurd (isPlain_commandWord other) hword.not_isPlain
    | dashes => exact absurd rfl hword.ne_dashes
    | given hother => exact absurd (hword.unique hother).2 nofun
    | named hother _ hrest =>
      rcases hword.unique hother with ⟨rfl, -⟩
      rcases ih hrest with ⟨rfl, rfl⟩
      exact ⟨rfl, rfl⟩
    | plain _ hother => exact absurd hother hword.not_isPlain
  | plain htop hword _ ih =>
    cases h' with
    | command hother => exact absurd hother htop
    | dashes => exact absurd hword not_isPlain_dashes
    | given hother => exact absurd hword hother.not_isPlain
    | named hother => exact absurd hword hother.not_isPlain
    | plain _ _ hrest =>
      rcases ih hrest with ⟨rfl, rfl⟩
      exact ⟨rfl, rfl⟩

/-- Below the name of a command there is no other command. -/
theorem Reads.rest_eq_none {level : Level} {words : List String} {items : List Item} {rest : Rest}
    (h : Reads level words items rest) (htop : ¬ level.isTop) : rest = none := by
  induction h with
  | done | dashes => rfl
  | command hother => exact absurd hother htop
  | given _ _ ih | named _ _ _ ih | plain _ _ _ ih => exact ih

end ClassModel.CommandLine
