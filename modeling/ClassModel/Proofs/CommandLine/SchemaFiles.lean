import ClassModel.CommandLine.Request
import ClassModel.Program
import ClassModel.Proofs.CommandLine.Grammar
import ClassModel.Proofs.Except
import ClassModel.Proofs.Schema.DocumentText

/-!
# Schema files of a command line

Which of the schema files that a command line names are loaded, and in which order.

* `CommandLine.Taken.word_eq_ok`, `CommandLine.scan_cons_eq_ok` — what taking one word can do;
* `CommandLine.reads_of_scan` — a level that is taken reads as options and plain words, and holds
  the values of its options in the order they are written in;
* `CommandLine.Line`, `CommandLine.Line.unique` — a whole command line, before and after the name of
  its command;
* `CommandLine.schema_of_read` — the schema files of a request.
-/

namespace ClassModel.CommandLine

namespace Taken

variable {taken next settled : Taken} {level : Level}

/-- The values of options, with that of the last option if it has come. -/
def held (taken : Taken) : List (Setting × String) :=
  taken.values ++
    match taken.pending with
    | some (setting, some value) => [(setting, value)]
    | _ => []

theorem accept_eq_ok {setting : Setting} {value : String}
    (h : taken.accept setting value = .ok next) :
    next = { taken with values := taken.values ++ [(setting, value)] } := by
  unfold accept at h
  split at h
  · cases h
  · split at h
    · exact (Except.ok.inj h).symm
    · cases h

theorem settle_eq_ok (h : taken.settle = .ok settled) :
    taken.awaitsValue = false ∧ settled = { taken with values := taken.held, pending := none } := by
  unfold settle at h
  split at h
  · next hpending =>
    refine ⟨by simp [awaitsValue, hpending], ?_⟩
    rw [← Except.ok.inj h]
    simp [held, hpending]
  · cases h
  · next setting value hpending =>
    refine ⟨by simp [awaitsValue, hpending], ?_⟩
    rw [accept_eq_ok h]
    simp [held, hpending]

theorem option_some_eq_ok {setting : Setting} {value : List Char}
    (h : taken.option setting (some value) = .ok next) :
    taken.awaitsValue = false ∧
      next = { taken with
        values := taken.held ++ [(setting, String.ofList value)]
        pending := none } := by
  rcases bind_eq_ok.1 h with ⟨settled, hsettle, hnext⟩
  rcases settle_eq_ok hsettle with ⟨hawaits, rfl⟩
  exact ⟨hawaits, accept_eq_ok hnext⟩

theorem option_none_eq_ok {setting : Setting} (h : taken.option setting none = .ok next) :
    taken.awaitsValue = false ∧
      next = { taken with values := taken.held, pending := some (setting, none) } := by
  rcases bind_eq_ok.1 h with ⟨settled, hsettle, hnext⟩
  rcases settle_eq_ok hsettle with ⟨hawaits, rfl⟩
  exact ⟨hawaits, (pure_eq_ok.1 hnext).symm⟩

theorem plainWord_eq_ok {word : String} (h : taken.plainWord level word = .ok next) :
    taken.words.length < level.places ∧ taken.awaitsValue = false ∧
      next = { taken with
        values := taken.held
        words := taken.words ++ [word]
        pending := none } := by
  unfold plainWord at h
  split at h
  · next hroom =>
    rcases bind_eq_ok.1 h with ⟨settled, hsettle, hnext⟩
    rcases settle_eq_ok hsettle with ⟨hawaits, rfl⟩
    exact ⟨hroom, hawaits, (pure_eq_ok.1 hnext).symm⟩
  · split at h <;> cases h

theorem stop_ne_ok {reason : UsageError} : taken.stop reason ≠ .ok next := by
  intro h
  rcases bind_eq_ok.1 h with ⟨_, _, hnext⟩
  cases hnext

theorem longOption_eq_ok {name : List Char} {value : Option (List Char)}
    (h : taken.longOption level name value = .ok next) :
    ∃ setting, level.settings.find? (fun setting => setting.long.toList = name) = some setting ∧
      taken.option setting value = .ok next := by
  unfold longOption at h
  split at h
  · next setting hfind => exact ⟨setting, hfind, h⟩
  · generalize (if name = "help".toList then some UsageError.help
      else if level.isTop && name = "version".toList then some .version
      else none) = special at h
    cases special with
    | none => cases h
    | some reason =>
      cases value with
      | none => exact absurd h stop_ne_ok
      | some value => cases h

theorem shortOption_eq_ok {letter : Char} {rest : List Char}
    (h : taken.shortOption level letter rest = .ok next) :
    ∃ setting, level.settings.find? (fun setting => setting.short? = some letter) = some setting ∧
      taken.option setting (valueAfterLetter rest) = .ok next := by
  unfold shortOption at h
  split at h
  · next setting hfind =>
    refine ⟨setting, hfind, ?_⟩
    cases rest with
    | nil => exact h
    | cons first rest =>
      by_cases hfirst : first = '='
      · subst hfirst
        exact h
      · simpa [valueAfterLetter, hfirst] using h
  · split at h
    · exact absurd h stop_ne_ok
    · split at h
      · exact absurd h stop_ne_ok
      · cases h

/-- What a level does with a word before two dashes have come. -/
theorem word_eq_ok {word : String} (hopen : taken.plainOnly = false)
    (h : taken.word level word = .ok next) :
    (word = "--" ∧ next = { taken with plainOnly := true }) ∨
    (∃ setting value, Spells level word.toList setting value ∧
      taken.option setting value = .ok next) ∨
    (IsPlain word.toList ∧ ∃ setting, taken.pending = some (setting, none) ∧
      next = { taken with pending := some (setting, some word) }) ∨
    (IsPlain word.toList ∧ taken.plainWord level word = .ok next) := by
  unfold Taken.word at h
  rw [if_neg (by simp [hopen])] at h
  split at h
  · next hword =>
    refine .inl ⟨String.toList_injective hword, ?_⟩
    exact (Except.ok.inj h).symm
  · next option _ hword =>
    rcases hsplit : splitValue option with ⟨name, value⟩
    rw [hsplit] at h
    rcases longOption_eq_ok h with ⟨setting, hfind, hnext⟩
    refine .inr (.inl ⟨setting, value, spells_of_optionOf? ?_, hnext⟩)
    simp [hword, optionOf?, hsplit, hfind]
  · next letter rest _ hletter hword =>
    rcases shortOption_eq_ok h with ⟨setting, hfind, hnext⟩
    refine .inr (.inl ⟨setting, _, spells_of_optionOf? ?_, hnext⟩)
    simp [hword, optionOf?, hfind]
  · next hdashes hlong hshort =>
    have hplain : IsPlain word.toList := by
      cases hword : word.toList with
      | nil => exact .inr (by simp)
      | cons first rest =>
        by_cases hfirst : first = '-'
        · subst hfirst
          cases rest with
          | nil => exact .inl rfl
          | cons letter rest => exact absurd hword (hshort letter rest)
        · exact .inr (by simpa using hfirst)
    split at h
    · next setting hpending =>
      exact .inr (.inr (.inl ⟨hplain, setting, hpending, (Except.ok.inj h).symm⟩))
    · exact .inr (.inr (.inr ⟨hplain, h⟩))

end Taken

/-! ## Levels -/

variable {level : Level} {taken last final : Taken} {words : List String} {rest : Rest}

theorem word_of_ofWord? {word : String} {name : CommandName}
    (h : CommandName.ofWord? word = some name) : name.word = word := by
  simpa using List.find?_some h

/-- The next word of a level is the name of a command, or the level takes it and goes on. -/
theorem scan_cons_eq_ok {word : String} (h : scan level taken (word :: words) = .ok (last, rest)) :
    (level.isTop ∧ taken.plainOnly = false ∧ taken.awaitsValue = false ∧
      ∃ name : CommandName, word = name.word ∧ last = taken ∧ rest = some (name, words)) ∨
    ∃ next, taken.word level word = .ok next ∧ scan level next words = .ok (last, rest) := by
  rw [scan] at h
  split at h
  · cases h
  · split at h
    · next name hname =>
      split at hname
      · next hmay =>
        simp only [Bool.and_eq_true, Bool.not_eq_true'] at hmay
        rcases Prod.mk.inj (Except.ok.inj h) with ⟨rfl, rfl⟩
        exact .inl ⟨hmay.1.1, hmay.1.2, hmay.2, name, (word_of_ofWord? hname).symm, rfl, rfl⟩
      · cases hname
    · split at h
      · next hnext => exact .inr ⟨_, hnext, h⟩
      · cases h

/-- The values of options among items, in order. -/
def options (items : List Item) : List (Setting × String) :=
  items.filterMap fun item =>
    match item with
    | .option setting value => some (setting, value)
    | .plain _ => none

theorem options_map_plain (words : List String) : options (words.map .plain) = [] := by
  simp [options]

/-- After two dashes there are plain words only, and no option awaits its value any more. -/
theorem scan_plainOnly (hplain : taken.plainOnly = true)
    (h : scan level taken words = .ok (last, rest)) (hsettle : last.settle = .ok final) :
    taken.awaitsValue = false ∧ rest = none ∧ final.values = taken.held := by
  induction words generalizing taken with
  | nil =>
    rcases Prod.mk.inj (Except.ok.inj h) with ⟨rfl, rfl⟩
    rcases Taken.settle_eq_ok hsettle with ⟨hawaits, rfl⟩
    exact ⟨hawaits, rfl, rfl⟩
  | cons word words ih =>
    rcases scan_cons_eq_ok h with ⟨-, hopen, -⟩ | ⟨next, hword, hscan⟩
    · exact absurd hplain (by simp [hopen])
    · rw [Taken.word, if_pos hplain] at hword
      rcases Taken.plainWord_eq_ok hword with ⟨-, hawaits, rfl⟩
      rcases ih (by exact hplain) hscan with ⟨-, hrest, hvalues⟩
      exact ⟨hawaits, hrest, by simpa [Taken.held] using hvalues⟩

/-- What the words from here on read as: the value that the last option awaits comes first. -/
def ReadsOn (level : Level) (pending : Option (Setting × Option String)) (words : List String)
    (items : List Item) (rest : Rest) : Prop :=
  match pending with
  | some (setting, none) =>
    ∃ value words' items', words = value :: words' ∧ IsPlain value.toList ∧
      items = .option setting value :: items' ∧ Reads level words' items' rest
  | _ => Reads level words items rest

theorem readsOn_of_reads {items : List Item} (hawaits : taken.awaitsValue = false)
    (h : Reads level words items rest) : ReadsOn level taken.pending words items rest := by
  unfold ReadsOn
  split
  · next hpending => simp [Taken.awaitsValue, hpending] at hawaits
  · exact h

/-- What a level takes reads as options and plain words, and in the end it holds the values of the
options, in the order they are written in. -/
theorem reads_of_scan (hplaces : level.isTop → level.places = 0) (hopen : taken.plainOnly = false)
    (h : scan level taken words = .ok (last, rest)) (hsettle : last.settle = .ok final) :
    ∃ items, ReadsOn level taken.pending words items rest ∧
      final.values = taken.held ++ options items := by
  -- On the words; the last option may await its value at any of them.
  induction words generalizing taken with
  | nil =>
    rcases Prod.mk.inj (Except.ok.inj h) with ⟨rfl, rfl⟩
    rcases Taken.settle_eq_ok hsettle with ⟨hawaits, rfl⟩
    exact ⟨[], readsOn_of_reads hawaits .done, by simp [options]⟩
  | cons word words ih =>
    rcases scan_cons_eq_ok h with ⟨htop, -, hawaits, name, rfl, rfl, rfl⟩ | ⟨next, hword, hscan⟩
    · rcases Taken.settle_eq_ok hsettle with ⟨-, rfl⟩
      exact ⟨[], readsOn_of_reads hawaits (.command htop name words), by simp [options]⟩
    rcases Taken.word_eq_ok hopen hword with ⟨rfl, rfl⟩ | ⟨setting, value, hspells, hoption⟩ |
      ⟨hplain, setting, hpending, rfl⟩ | ⟨hplain, hplainWord⟩
    · -- Two dashes.
      rcases scan_plainOnly rfl hscan hsettle with ⟨hawaits, rfl, hvalues⟩
      refine ⟨words.map .plain, readsOn_of_reads hawaits (.dashes words), ?_⟩
      rw [options_map_plain, List.append_nil]
      exact hvalues
    · -- An option, with its value or before it.
      cases value with
      | some value =>
        rcases Taken.option_some_eq_ok hoption with ⟨hawaits, rfl⟩
        rcases ih (by exact hopen) hscan with ⟨items, hreads, hvalues⟩
        refine ⟨.option setting (String.ofList value) :: items,
          readsOn_of_reads hawaits (.given hspells hreads), ?_⟩
        simpa [Taken.held, options] using hvalues
      | none =>
        rcases Taken.option_none_eq_ok hoption with ⟨hawaits, rfl⟩
        rcases ih (by exact hopen) hscan with
          ⟨_, ⟨value, words, items, rfl, hvalue, rfl, hreads⟩, hvalues⟩
        refine ⟨.option setting value :: items,
          readsOn_of_reads hawaits (.named hspells hvalue hreads), ?_⟩
        simpa [Taken.held, options] using hvalues
    · -- The value of the last option.
      rcases ih (by exact hopen) hscan with ⟨items, hreads, hvalues⟩
      refine ⟨.option setting word :: items, ?_, ?_⟩
      · rw [hpending]
        exact ⟨word, words, items, rfl, hplain, rfl, hreads⟩
      · simpa [Taken.held, options, hpending] using hvalues
    · -- A plain word, for which only the levels of commands have a place.
      rcases Taken.plainWord_eq_ok hplainWord with ⟨hroom, hawaits, rfl⟩
      have htop : ¬ level.isTop := by
        intro htop
        rw [hplaces htop] at hroom
        exact absurd hroom (Nat.not_lt_zero _)
      rcases ih (by exact hopen) hscan with ⟨items, hreads, hvalues⟩
      refine ⟨.plain word :: items, readsOn_of_reads hawaits (.plain htop hplain hreads), ?_⟩
      simpa [Taken.held, options] using hvalues

/-! ## Files loaded -/

section Loading

variable {m : Type → Type} [Monad m] [LawfulMonad m] {access : FileAccess m}
  {paths : List String} {documents : List Document}

/-- A path leads to the text of a document. -/
def Holds (access : FileAccess m) (path : String) (document : Document) : Prop :=
  ∃ text, access.read path = pure (.ok text) ∧ Document.ofText text = .ok document

theorem documents_of_holds (h : List.Forall₂ (Holds access) paths documents) :
    Program.documents access paths = pure (.ok documents) := by
  induction h with
  | nil => rfl
  | cons hfirst _ ih =>
    rcases hfirst with ⟨text, hread, htext⟩
    simp [Program.documents, hread, htext, ih, Except.map]

/-- The model of files that are given is that of their documents, one layer for each file. -/
theorem loadModel_of_holds (hpaths : paths ≠ [])
    (h : List.Forall₂ (Holds access) paths documents) :
    Program.loadModel access paths =
      pure (((Model.ofDocuments documents).mapError LoadError.source).mapError RunError.load) := by
  simp [Program.loadModel, Program.schemaFiles, hpaths, Program.loadFiles, documents_of_holds h]

end Loading

/-! ## Command lines -/

/-- The schema files among items, in order. -/
def namedFiles (items : List Item) : List String :=
  items.filterMap fun item =>
    match item with
    | .option .schema file => some file
    | _ => none

theorem valuesOf_schema {items : List Item} (h : taken.values = options items) :
    taken.valuesOf .schema = namedFiles items := by
  rw [Taken.valuesOf, h, options, namedFiles, List.filterMap_filterMap]
  congr 1
  funext item
  cases item with
  | option setting value => cases setting <;> rfl
  | plain word => rfl

/-- A command line reads as items before the name of a command, the name, and items after it. -/
def Line (words : List String) (before : List Item) (name : CommandName) (after : List Item) :
    Prop :=
  ∃ inner, Reads topLevel words before (some (name, inner)) ∧ Reads name.level inner after none

theorem Line.unique {before others after afters : List Item} {name other : CommandName}
    (h : Line words before name after) (h' : Line words others other afters) :
    before = others ∧ name = other ∧ after = afters := by
  rcases h with ⟨inner, hbefore, hafter⟩
  rcases h' with ⟨inner', hbefore', hafter'⟩
  rcases hbefore.unique hbefore' with ⟨rfl, hrest⟩
  rcases Prod.mk.inj (Option.some.inj hrest) with ⟨rfl, rfl⟩
  exact ⟨rfl, rfl, (hafter.unique hafter').1⟩

theorem not_isTop_level (name : CommandName) : ¬ name.level.isTop := by
  cases name <;> decide

/-- The values that a level holds after all its words are those of the options it reads as. -/
theorem reads_of_scan_nothing (hplaces : level.isTop → level.places = 0)
    (h : scan level .nothing words = .ok (last, rest)) (hsettle : last.settle = .ok final) :
    ∃ items, Reads level words items rest ∧ final.valuesOf .schema = namedFiles items := by
  rcases reads_of_scan hplaces rfl h hsettle with ⟨items, hreads, hvalues⟩
  exact ⟨items, hreads, valuesOf_schema hvalues⟩

/-- A line that is taken reads as one, and its request has the schema files named after the name
of the command or else those named before it. -/
theorem line_of_read {request : Request} (h : read words = .ok request) :
    ∃ before name after, Line words before name after ∧
      request.schema =
        if namedFiles after = [] then namedFiles before else namedFiles after := by
  rcases bind_eq_ok.1 h with ⟨⟨outer, rest⟩, houter, h⟩
  cases rest with
  | none =>
    rcases bind_eq_ok.1 h with ⟨_, _, herror⟩
    cases herror
  | some found =>
    obtain ⟨name, inner⟩ := found
    rcases bind_eq_ok.1 h with ⟨⟨innerFinal, command⟩, hinner, h⟩
    rcases bind_eq_ok.1 h with ⟨outerFinal, houterSettle, h⟩
    rcases bind_eq_ok.1 hinner with ⟨⟨innerLast, innerRest⟩, hinnerScan, hinner⟩
    rcases bind_eq_ok.1 hinner with ⟨settled, hinnerSettle, hinner⟩
    rcases bind_eq_ok.1 hinner with ⟨_, _, hpair⟩
    rcases Prod.mk.inj (pure_eq_ok.1 hpair) with ⟨rfl, rfl⟩
    rcases reads_of_scan_nothing (fun _ => rfl) houter houterSettle with
      ⟨before, hbefore, hbeforeFiles⟩
    rcases reads_of_scan_nothing (fun htop => absurd htop (not_isTop_level name)) hinnerScan
      hinnerSettle with ⟨after, hafter, hafterFiles⟩
    obtain rfl := hafter.rest_eq_none (not_isTop_level name)
    refine ⟨before, name, after, ⟨inner, hbefore, hafter⟩, ?_⟩
    have hschema : sharedValues outerFinal settled .schema =
        if namedFiles after = [] then namedFiles before else namedFiles after := by
      rw [sharedValues, hafterFiles, hbeforeFiles]
      split
      · next hnone => rw [if_pos hnone]
      · next hsome => rw [if_neg hsome]
    rw [← hschema, ← pure_eq_ok.1 h]

theorem ite_eq_append_iff {before after : List String} :
    (if after = [] then before else after) = before ++ after ↔ before = [] ∨ after = [] := by
  split
  · next hafter => simp [hafter]
  · next hafter =>
    rw [List.self_eq_append_left]
    exact ⟨.inl, fun h => h.resolve_right hafter⟩

/-- A command line that is taken reads in one way. The files named after the name of the command
are the schema files, or else those named before it; so they are all the files named, in order,
unless there are some on both sides. Each file that is kept adds its layer to the model. -/
theorem schema_of_read {words : List String} {request : Request} (h : read words = .ok request) :
    (∃ before name after, Line words before name after) ∧
    (∀ before name after, Line words before name after →
      request.schema = (if namedFiles after = [] then namedFiles before else namedFiles after) ∧
      (request.schema = namedFiles before ++ namedFiles after ↔
        namedFiles before = [] ∨ namedFiles after = [])) ∧
    ∀ (m : Type → Type) [Monad m] [LawfulMonad m] (access : FileAccess m)
      (documents : List Document), request.schema ≠ [] →
      List.Forall₂ (Holds access) request.schema documents →
      Program.loadModel access request.schema =
        pure (((Model.ofDocuments documents).mapError LoadError.source).mapError
          RunError.load) := by
  rcases line_of_read h with ⟨before, name, after, hline, hschema⟩
  refine ⟨⟨before, name, after, hline⟩, ?_, fun m _ _ access documents => loadModel_of_holds⟩
  intro others other afters hother
  rcases hline.unique hother with ⟨rfl, rfl, rfl⟩
  exact ⟨hschema, by rw [hschema]; exact ite_eq_append_iff⟩

namespace Layered

/-- Two files before the name of the command, in two forms. -/
def line : List String := ["--schema=base.json", "-s", "more.json", "classes", "-d", "label"]

def request : Request := ⟨["base.json", "more.json"], .table, .classes (some "label")⟩

/-- Files that each hold a document named for its path. -/
def files : FileAccess Id where
  found _ := true
  read path := .ok (Json.compactText (Document.json ⟨path, none, []⟩))

def documents : List Document := [⟨"base.json", none, []⟩, ⟨"more.json", none, []⟩]

end Layered

theorem schema_of_read_layered :
    read Layered.line = .ok Layered.request ∧
    Layered.request.schema = ["base.json"] ++ ["more.json"] ∧
    Program.loadModel Layered.files Layered.request.schema =
      pure (((Model.ofDocuments Layered.documents).mapError LoadError.source).mapError
        RunError.load) := by
  have hread : read Layered.line = .ok Layered.request := rfl
  have hschema : Setting.schema ∈ topLevel.settings := by decide
  have hline : Line Layered.line
      [.option .schema (String.ofList "base.json".toList), .option .schema "more.json"] .classes
      [.option .declaring "label"] :=
    ⟨["-d", "label"],
      .given (.longValue hschema "base.json".toList)
        (.named (.short hschema rfl) (.inr (by decide)) (.command rfl .classes _)),
      .named (.short (by decide) rfl) (.inr (by decide)) .done⟩
  have hholds : List.Forall₂ (Holds Layered.files) Layered.request.schema Layered.documents :=
    .cons ⟨_, rfl, Document.ofText_json _⟩ (.cons ⟨_, rfl, Document.ofText_json _⟩ .nil)
  rcases schema_of_read hread with ⟨-, hreads, hloads⟩
  refine ⟨hread, ?_, hloads Id Layered.files Layered.documents nofun hholds⟩
  exact (hreads _ _ _ hline).2.2 (.inr rfl)

/-- With a file on each side of the name of the command, the one before it is dropped. -/
theorem schema_dropped :
    read ["-s", "a.json", "classes", "-s", "b.json"] =
      .ok ⟨["b.json"], .table, .classes none⟩ ∧
    Line ["-s", "a.json", "classes", "-s", "b.json"] [.option .schema "a.json"] .classes
      [.option .schema "b.json"] ∧
    ["b.json"] ≠
      namedFiles [.option .schema "a.json"] ++ namedFiles [.option .schema "b.json"] := by
  refine ⟨rfl, ⟨["-s", "b.json"], ?_, ?_⟩, by decide⟩
  · exact .named (.short (by decide) rfl) (.inr (by decide)) (.command rfl .classes _)
  · exact .named (.short (by decide) rfl) (.inr (by decide)) .done

end ClassModel.CommandLine
