import ClassModel.Model.Build
import ClassModel.Proofs.Schema.Growth
import ClassModel.Proofs.Schema.Passes

/-!
# Documents that come again

A document is taken in a pass of its own. When it comes again, every class it opens is there, every
parent it names is among the parents and every field it declares is known from an earlier pass; so
nothing is added, and only the marks of the passes differ, which no later pass looks at.

* `Draft.Covers` — a draft has all that a class entry declares;
* `Draft.Registered` — a document has been taken, and still is after other documents;
* `Draft.Registered.addDocument_again` — taken again, it adds nothing;
* `Model.ofDocuments_again` — a document that comes again leaves the model as it is.
-/

namespace ClassModel

/-! ## What a class entry leaves -/

namespace Draft

variable {draft next : Draft}

/-- A draft has the class of an entry, with its parents and fields. -/
def Covers (draft : Draft) (entry : ClassEntry) : Prop :=
  ∃ cls, draft.find? entry.name = some cls ∧ (∀ p ∈ entry.parents, p ∈ cls.parentNames) ∧
    ∀ f ∈ entry.fields, cls.field? f.name ≠ none

theorem Covers.mono {entry : ClassEntry} (h : draft.Covers entry) (hwithin : draft.Within next) :
    next.Covers entry := by
  rcases h with ⟨cls, hcls, hparents, hfields⟩
  rcases hwithin entry.name cls hcls with ⟨later, hlater, hkept⟩
  refine ⟨later, hlater, fun p hp => hkept.parentNames.subset (hparents p hp), fun f hf => ?_⟩
  have hknown := hfields f hf
  simp only [DraftClass.field?, ne_eq, List.find?_eq_none, not_forall] at hknown ⊢
  rcases hknown with ⟨g, hg, hname⟩
  exact ⟨g, hkept.fields.subset hg, hname⟩

/-- What a draft has of an entry can be collected part by part. -/
theorem Covers.cons {name : String} {parents : List String} {f : FieldDeclaration}
    {fields : List FieldDeclaration} (h : draft.Covers ⟨name, parents, fields⟩)
    (hf : draft.Covers ⟨name, [], [f]⟩) : draft.Covers ⟨name, parents, f :: fields⟩ := by
  rcases h with ⟨cls, hcls, hparents, hfields⟩
  rcases hf with ⟨cls', hcls', -, hfield⟩
  obtain rfl := Option.some.inj (hcls.symm.trans hcls')
  refine ⟨cls, hcls, hparents, ?_⟩
  rw [List.forall_mem_cons]
  exact ⟨hfield f (List.mem_singleton.mpr rfl), hfields⟩

theorem covers_openClass {name : String} {parents : List String}
    (hnext : draft.openClass name parents = .ok next) : next.Covers ⟨name, parents, []⟩ := by
  rcases find?_openClass hnext with ⟨cls, hcls, -, hparents⟩
  exact ⟨cls, hcls, hparents, by simp⟩

theorem covers_declareField {name : String} (hopened : draft.opened = some name)
    {f : FieldDeclaration} (hnext : draft.declareField f = .ok next) :
    next.opened = some name ∧ next.Covers ⟨name, [], [f]⟩ := by
  rcases declareField_eq_ok.mp hnext with ⟨cls, hopen, hcase⟩
  rw [Draft.openClass?, hopened, Option.bind_some] at hopen
  rcases hcase with ⟨hnew, rfl⟩ | ⟨known, hknown, -, rfl⟩
  · refine ⟨hopened, cls.addField draft.pass f, ?_, by simp, ?_⟩
    · rw [(find?_eq_some hopen).2]
      exact find?_update_self (fun old => DraftClass.name_addField old draft.pass f) hopen
    · simp [DraftClass.field?, DraftClass.addField]
  · refine ⟨hopened, cls, hopen, by simp, ?_⟩
    simp [hknown]

theorem covers_declare_fields (hsound : draft.Sound) {name : String} {parents : List String}
    (hopened : draft.opened = some name) (hcovers : draft.Covers ⟨name, parents, []⟩)
    {fields : List FieldDeclaration} (hnext : draft.declare (fields.map .field) = .ok next) :
    next.Covers ⟨name, parents, fields⟩ := by
  induction fields generalizing draft with
  | nil =>
    rw [List.map_nil, declare_nil, Except.ok.injEq] at hnext
    exact hnext ▸ hcovers
  | cons f rest ih =>
    rw [List.map_cons, declare_cons] at hnext
    rcases bind_eq_ok.mp hnext with ⟨mid, hmid, hrest⟩
    rcases covers_declareField hopened hmid with ⟨hstill, hfield⟩
    have hsound' := hsound.declareField hmid
    have hothers := ih hsound' hstill (hcovers.mono (.declareField hmid)) hrest
    exact hothers.cons (hfield.mono (.declare hsound' hrest))

/-- A class entry is taken by opening its class, declaring its fields and closing it. -/
theorem declare_entry_eq_ok {entry : ClassEntry} :
    draft.declare entry.declarations = .ok next ↔
      ∃ opened, draft.openClass entry.name entry.parents = .ok opened ∧
        ∃ filled, opened.declare (entry.fields.map .field) = .ok filled ∧
          filled.closeClass = .ok next := by
  simp only [ClassEntry.declarations, List.cons_append, declare_cons, declare_append, declare_nil,
    bind_eq_ok, Draft.apply, Except.ok.injEq, exists_eq_right]

theorem covers_declare (hsound : draft.Sound) {entry : ClassEntry}
    (hnext : draft.declare entry.declarations = .ok next) : next.Covers entry := by
  rcases declare_entry_eq_ok.mp hnext with ⟨opened, hopened, filled, hfilled, hclosed⟩
  have hopen : opened.opened = some entry.name := by
    rcases openClass_eq_ok.mp hopened with ⟨-, ⟨-, -, -, rfl⟩ | ⟨-, rfl⟩⟩
    · rfl
    · rfl
  have hfields := covers_declare_fields (hsound.openClass hopened) hopen
    (covers_openClass hopened) hfilled
  exact hfields.mono (.closeClass hclosed)

/-- The class of an entry is opened now, and was not before. -/
theorem openedNow_declare (hsound : draft.Sound) {entry : ClassEntry}
    (hnext : draft.declare entry.declarations = .ok next) :
    ¬ draft.OpenedNow entry.name ∧ next.OpenedNow entry.name := by
  rcases declare_entry_eq_ok.mp hnext with ⟨opened, hopened, filled, hfilled, hclosed⟩
  have hsound' := hsound.openClass hopened
  rcases find?_openClass hopened with ⟨cls, hcls, hnow, -⟩
  have hfull := OpenedNow.declare ⟨cls, hcls, hnow⟩ hsound' hfilled
  have hlast : filled.apply .closeClass = .ok next := hclosed
  exact ⟨not_openedNow_of_openClass hopened, hfull.apply (hsound'.declare hfilled) hlast⟩

/-! ## What a document leaves -/

/-- A document that is taken opens each of its classes once, and the draft has all of them. -/
theorem covers_declare_document (hsound : draft.Sound) {entries : List ClassEntry}
    (hnext : draft.declare (entries.flatMap ClassEntry.declarations) = .ok next) :
    (entries.map ClassEntry.name).Nodup ∧ (∀ entry ∈ entries, ¬ draft.OpenedNow entry.name) ∧
      ∀ entry ∈ entries, next.Covers entry := by
  induction entries generalizing draft with
  | nil => simp
  | cons entry rest ih =>
    rw [List.flatMap_cons, declare_append] at hnext
    rcases bind_eq_ok.mp hnext with ⟨mid, hmid, hrest⟩
    have hsound' := hsound.declare hmid
    rcases ih hsound' hrest with ⟨hdistinct, hunopened, hcovers⟩
    rcases openedNow_declare hsound hmid with ⟨hbefore, hafter⟩
    simp only [List.map_cons, List.nodup_cons, List.forall_mem_cons]
    refine ⟨⟨?_, hdistinct⟩, ⟨hbefore, ?_⟩, ?_, hcovers⟩
    · -- a later entry of that name would open the class a second time
      intro hagain
      rcases List.mem_map.mp hagain with ⟨other, hother, hname⟩
      exact hunopened other hother (hname ▸ hafter)
    · intro other hother hnow
      exact hunopened other hother (hnow.declare hsound hmid)
    · exact (covers_declare hsound hmid).mono (.declare hsound' hrest)

theorem opened_declare_document (hopened : draft.opened = none) {entries : List ClassEntry}
    (hnext : draft.declare (entries.flatMap ClassEntry.declarations) = .ok next) :
    next.opened = none := by
  induction entries generalizing draft with
  | nil =>
    rw [List.flatMap_nil, declare_nil, Except.ok.injEq] at hnext
    exact hnext ▸ hopened
  | cons entry rest ih =>
    rw [List.flatMap_cons, declare_append] at hnext
    rcases bind_eq_ok.mp hnext with ⟨mid, hmid, hrest⟩
    rcases declare_entry_eq_ok.mp hmid with ⟨_, -, _, -, hclosed⟩
    rcases closeClass_eq_ok.mp hclosed with ⟨-, rfl⟩
    exact ih rfl hrest

/-! ## An entry once more -/

/-- An earlier pass has declared all of a class entry, and this one nothing of its class. -/
def Recalls (draft : Draft) (entry : ClassEntry) : Prop :=
  ∃ cls, draft.find? entry.name = some cls ∧ (∀ p ∈ entry.parents, p ∈ cls.parentNames) ∧
    (∀ f ∈ entry.fields, cls.field? f.name ≠ none) ∧ cls.openedIn ≠ draft.pass ∧
    ∀ f ∈ cls.fields, f.pass ≠ draft.pass

theorem Covers.recalls {entry : ClassEntry} (h : draft.Covers entry) (hunmarked : draft.Unmarked) :
    draft.Recalls entry := by
  rcases h with ⟨cls, hcls, hparents, hfields⟩
  rcases hunmarked cls (find?_eq_some hcls).1 with ⟨hopened, hpast⟩
  exact ⟨cls, hcls, hparents, hfields, hopened, hpast⟩

/-- Fields that are known from an earlier pass are skipped. -/
theorem declare_known_fields {name : String} {cls : DraftClass} (hopened : draft.opened = some name)
    (hcls : draft.find? name = some cls) (hpast : ∀ f ∈ cls.fields, f.pass ≠ draft.pass)
    {fields : List FieldDeclaration} (hknown : ∀ f ∈ fields, cls.field? f.name ≠ none) :
    draft.declare (fields.map .field) = .ok draft := by
  induction fields with
  | nil => rfl
  | cons f rest ih =>
    rw [List.forall_mem_cons] at hknown
    rcases Option.ne_none_iff_exists'.mp hknown.1 with ⟨known, hfield⟩
    have hskip : draft.apply (.field f) = .ok draft := by
      refine declareField_eq_ok.mpr ⟨cls, ?_, Or.inr ⟨known, hfield, ?_, rfl⟩⟩
      · rw [openClass?, hopened, Option.bind_some, hcls]
      · exact hpast known (List.mem_of_find?_eq_some hfield)
    rw [List.map_cons, declare_cons, hskip]
    exact ih hknown.2

end Draft

theorem DraftClass.foldl_addParent_of_mem {cls : DraftClass} {parents : List String}
    (h : ∀ p ∈ parents, p ∈ cls.parentNames) : parents.foldl addParent cls = cls := by
  induction parents with
  | nil => rfl
  | cons parent rest ih =>
    rw [List.forall_mem_cons] at h
    rw [List.foldl_cons, addParent, if_pos h.1]
    exact ih h.2

namespace Draft

variable {draft next : Draft}

theorem update_congr {name : String} {change change' : DraftClass → DraftClass}
    (h : ∀ cls ∈ draft.classes, cls.name = name → change cls = change' cls) :
    draft.update name change = draft.update name change' := by
  have hclasses : (draft.update name change).classes = (draft.update name change').classes := by
    refine List.map_congr_left fun cls hcls => ?_
    split
    · next hname => exact h cls hcls hname
    · rfl
  simp only [update] at hclasses ⊢
  rw [hclasses]

/-- An entry that comes again only marks its class. -/
theorem declare_again (hsound : draft.Sound) (hopened : draft.opened = none) {entry : ClassEntry}
    (h : draft.Recalls entry) :
    draft.declare entry.declarations = .ok (draft.update entry.name (·.reopen draft.pass [])) := by
  rcases h with ⟨cls, hcls, hparents, hknown, hstale, hpast⟩
  have hsame : draft.update entry.name (·.reopen draft.pass entry.parents) =
      draft.update entry.name (·.reopen draft.pass []) := by
    refine update_congr fun old hold hname => ?_
    -- names are distinct, so the class that changes is the one that knows all parents
    rcases find?_eq_some hcls with ⟨hmem, hfound⟩
    obtain rfl := List.inj_on_of_nodup_map hsound.distinct hold hmem (hname.trans hfound.symm)
    exact @DraftClass.foldl_addParent_of_mem { old with openedIn := draft.pass } _ hparents
  let marked : Draft :=
    { draft.update entry.name (·.reopen draft.pass []) with opened := some entry.name }
  have hfound : marked.find? entry.name = some (cls.reopen draft.pass []) :=
    find?_update_self (fun old => DraftClass.name_reopen old draft.pass []) hcls
  have hreopened : draft.openClass entry.name entry.parents = .ok marked := by
    refine openClass_eq_ok.mpr ⟨hopened, Or.inl ⟨cls, hcls, hstale, ?_⟩⟩
    rw [hsame]
  have hskipped : marked.declare (entry.fields.map .field) = .ok marked :=
    declare_known_fields rfl hfound hpast hknown
  have hclosed : marked.closeClass = .ok (draft.update entry.name (·.reopen draft.pass [])) := by
    refine closeClass_eq_ok.mpr ⟨⟨entry.name, rfl⟩, ?_⟩
    simp only [marked, update, hopened]
  exact declare_entry_eq_ok.mpr ⟨marked, hreopened, marked, hskipped, hclosed⟩

theorem alike_update_reopen (draft : Draft) (name : String) :
    (draft.update name (·.reopen draft.pass [])).Alike draft :=
  ⟨rfl, rfl, rfl, map_update DraftClass.declared fun _ => rfl⟩

/-- Entries that come again, each class once, add nothing. -/
theorem declare_document_again (hsound : draft.Sound) (hopened : draft.opened = none)
    {entries : List ClassEntry} (hdistinct : (entries.map ClassEntry.name).Nodup)
    (h : ∀ entry ∈ entries, draft.Recalls entry) :
    ∃ next, draft.declare (entries.flatMap ClassEntry.declarations) = .ok next ∧
      next.Alike draft := by
  induction entries generalizing draft with
  | nil => exact ⟨draft, rfl, rfl, rfl, rfl, rfl⟩
  | cons entry rest ih =>
    rw [List.map_cons, List.nodup_cons] at hdistinct
    rw [List.forall_mem_cons] at h
    have hmarked := declare_again hsound hopened h.1
    have hrecalls : ∀ other ∈ rest,
        (draft.update entry.name (·.reopen draft.pass [])).Recalls other := by
      intro other hother
      -- the class that was marked is not that of a later entry
      rcases h.2 other hother with ⟨cls, hcls, hknown⟩
      have hname : other.name ≠ entry.name :=
        fun heq => hdistinct.1 (heq ▸ List.mem_map_of_mem hother)
      refine ⟨cls, ?_, hknown⟩
      rw [find?_update fun old => DraftClass.name_reopen old draft.pass [], if_neg hname]
      exact hcls
    rcases ih (hsound.declare hmarked) hopened hdistinct.2 hrecalls with ⟨next, hnext, halike⟩
    refine ⟨next, ?_, halike.trans (alike_update_reopen draft entry.name)⟩
    rw [List.flatMap_cons, declare_append, hmarked]
    exact hnext

/-! ## A document once more -/

/-- A document has been taken: each of its classes stands once in it, and the draft has all of
them. No class is open. -/
structure Registered (draft : Draft) (document : Document) : Prop where
  sound : draft.Sound
  opened : draft.opened = none
  distinct : (document.classes.map ClassEntry.name).Nodup
  covers : ∀ entry ∈ document.classes, draft.Covers entry

theorem registered_of_declare {document : Document} (hsound : draft.Sound)
    (hopened : draft.opened = none) (hnext : draft.declare document.declarations = .ok next) :
    next.Registered document where
  sound := hsound.declare hnext
  opened := opened_declare_document hopened hnext
  distinct := (covers_declare_document hsound hnext).1
  covers := (covers_declare_document hsound hnext).2.2

theorem addDocument_eq_ok {document : Document} :
    draft.addDocument document = .ok next ↔
      ∃ passed, draft.beginPass = .ok passed ∧ passed.declare document.declarations = .ok next := by
  rw [addDocument, bind_eq_ok]

theorem Sound.addDocument {document : Document} (h : draft.Sound)
    (hnext : draft.addDocument document = .ok next) : next.Sound := by
  rcases addDocument_eq_ok.mp hnext with ⟨passed, hpassed, hdeclared⟩
  exact (h.beginPass hpassed).declare hdeclared

theorem Sound.registered {document : Document} (h : draft.Sound)
    (hnext : draft.addDocument document = .ok next) : next.Registered document := by
  rcases addDocument_eq_ok.mp hnext with ⟨passed, hpassed, hdeclared⟩
  have hopened : passed.opened = none := by
    rcases beginPass_eq_ok.mp hpassed with ⟨hclosed, rfl⟩
    exact hclosed
  exact registered_of_declare (h.beginPass hpassed) hopened hdeclared

namespace Registered

variable {document : Document}

theorem addDocument (h : draft.Registered document) {other : Document}
    (hnext : draft.addDocument other = .ok next) : next.Registered document := by
  rcases addDocument_eq_ok.mp hnext with ⟨passed, hpassed, hdeclared⟩
  have hsound := h.sound.beginPass hpassed
  have hopened : passed.opened = none := by
    rcases beginPass_eq_ok.mp hpassed with ⟨-, rfl⟩
    exact h.opened
  refine ⟨hsound.declare hdeclared, opened_declare_document hopened hdeclared, h.distinct, ?_⟩
  intro entry hentry
  exact ((h.covers entry hentry).mono (.beginPass hpassed)).mono (.declare hsound hdeclared)

theorem addDocuments (h : draft.Registered document) {documents : List Document}
    (hnext : documents.foldlM Draft.addDocument draft = .ok next) : next.Registered document := by
  induction documents generalizing draft with
  | nil =>
    rcases Except.ok.inj hnext with rfl
    exact h
  | cons other rest ih =>
    rw [List.foldlM_cons] at hnext
    rcases bind_eq_ok.mp hnext with ⟨mid, hmid, hrest⟩
    exact ih (h.addDocument hmid) hrest

/-- A document that was taken is taken again, and adds nothing. -/
theorem addDocument_again (h : draft.Registered document) :
    ∃ next, draft.addDocument document = .ok next ∧ next.Sound ∧ next.Alike draft := by
  have hpassed : draft.beginPass = .ok { draft with pass := draft.pass + 1 } :=
    beginPass_eq_ok.mpr ⟨h.opened, rfl⟩
  have hunmarked := h.sound.unmarked hpassed
  have hrecalls : ∀ entry ∈ document.classes,
      Draft.Recalls { draft with pass := draft.pass + 1 } entry :=
    fun entry hentry => ((h.covers entry hentry).mono (.beginPass hpassed)).recalls hunmarked
  rcases declare_document_again (h.sound.beginPass hpassed) h.opened h.distinct hrecalls with
    ⟨next, hnext, halike⟩
  have hadded := addDocument_eq_ok.mpr ⟨_, hpassed, hnext⟩
  exact ⟨next, hadded, h.sound.addDocument hadded,
    halike.name, halike.qualifier, halike.opened, halike.classes⟩

end Registered

/-- Drafts that are alike take the next document alike. -/
theorem Alike.addDocument {other : Draft} (h : draft.Alike other) (hsound : draft.Sound)
    (hother : other.Sound) (document : Document) :
    Agree (fun a b => a.Alike b ∧ a.Sound ∧ b.Sound) (draft.addDocument document)
      (other.addDocument document) := by
  have hagree : Agree Peer (draft.addDocument document) (other.addDocument document) :=
    h.pass hsound hother document.declarations
  exact (hagree.imp fun _ _ hpeer => hpeer.1.alike).and_of_ok
    (fun _ => hsound.addDocument) (fun _ => hother.addDocument)

/-- Drafts that are alike make the same schema of further documents. -/
theorem Alike.addDocuments {other : Draft} (h : draft.Alike other) (hsound : draft.Sound)
    (hother : other.Sound) (documents : List Document) :
    documents.foldlM Draft.addDocument draft >>= Draft.finish =
      documents.foldlM Draft.addDocument other >>= Draft.finish := by
  have hstep : ∀ (a b : Draft) (document : Document), a.Alike b ∧ a.Sound ∧ b.Sound →
      Agree (fun a b => a.Alike b ∧ a.Sound ∧ b.Sound) (a.addDocument document)
        (b.addDocument document) := by
    rintro a b document ⟨halike, ha, hb⟩
    exact halike.addDocument ha hb document
  refine (Agree.foldlM hstep ⟨h, hsound, hother⟩ documents).bind_eq ?_
  rintro a b ⟨halike, -, -⟩
  exact halike.finish

/-- A document that was taken may come again anywhere among further documents. -/
theorem Registered.addDocuments_again {document : Document} (h : draft.Registered document)
    (mid later : List Document) :
    (mid ++ document :: later).foldlM Draft.addDocument draft >>= Draft.finish =
      (mid ++ later).foldlM Draft.addDocument draft >>= Draft.finish := by
  rw [List.foldlM_append, List.foldlM_append]
  cases hmid : mid.foldlM Draft.addDocument draft with
  | error e => rfl
  | ok reached =>
    have hregistered := h.addDocuments hmid
    rcases hregistered.addDocument_again with ⟨next, hnext, hsound, halike⟩
    show (document :: later).foldlM Draft.addDocument reached >>= Draft.finish =
      later.foldlM Draft.addDocument reached >>= Draft.finish
    -- the copy leads to a draft that is alike, and from there all goes alike
    rw [List.foldlM_cons, hnext]
    exact halike.addDocuments hsound hregistered.sound later

/-- So may a document that is taken after others. -/
theorem Sound.addDocuments_again (h : draft.Sound) (before mid later : List Document)
    (document : Document) :
    (before ++ document :: (mid ++ document :: later)).foldlM Draft.addDocument draft >>=
        Draft.finish =
      (before ++ document :: (mid ++ later)).foldlM Draft.addDocument draft >>= Draft.finish := by
  induction before generalizing draft with
  | nil =>
    rw [List.nil_append, List.nil_append, List.foldlM_cons, List.foldlM_cons]
    cases hnext : draft.addDocument document with
    | error e => rfl
    | ok next => exact (h.registered hnext).addDocuments_again mid later
  | cons first rest ih =>
    rw [List.cons_append, List.cons_append, List.foldlM_cons, List.foldlM_cons]
    cases hnext : draft.addDocument first with
    | error e => rfl
    | ok next => exact ih (h.addDocument hnext)

end Draft

/-! ## The model of documents -/

namespace Schema

/-- The schema of documents is made of the first one, and then of the others in a row. -/
theorem ofDocuments_eq (first : Document) (rest : List Document) :
    ofDocuments first rest =
      (Draft.start first.name first.qualifier).declare first.declarations >>= fun draft =>
        rest.foldlM Draft.addDocument draft >>= Draft.finish := rfl

/-- The first document may come again. -/
theorem ofDocuments_first_again (first : Document) (mid later : List Document) :
    ofDocuments first (mid ++ first :: later) = ofDocuments first (mid ++ later) := by
  rw [ofDocuments_eq, ofDocuments_eq]
  cases hdraft : (Draft.start first.name first.qualifier).declare first.declarations with
  | error e => rfl
  | ok draft =>
    have hregistered := Draft.registered_of_declare (Draft.sound_start _ _) rfl hdraft
    exact hregistered.addDocuments_again mid later

/-- So may each of the others. -/
theorem ofDocuments_later_again (first document : Document) (before mid later : List Document) :
    ofDocuments first (before ++ document :: (mid ++ document :: later)) =
      ofDocuments first (before ++ document :: (mid ++ later)) := by
  rw [ofDocuments_eq, ofDocuments_eq]
  cases hdraft : (Draft.start first.name first.qualifier).declare first.declarations with
  | error e => rfl
  | ok draft =>
    exact ((Draft.sound_start _ _).declare hdraft).addDocuments_again before mid later document

end Schema

namespace Model

/-- Documents make the model of the schema that they declare. -/
theorem ofDocuments_cons_eq_ok {first : Document} {rest : List Document} {m : Model} :
    ofDocuments (first :: rest) = .ok m ↔
      ∃ schema, Schema.ofDocuments first rest = .ok schema ∧ ofSchema schema = .ok m := by
  simp only [ofDocuments]
  cases hschema : Schema.ofDocuments first rest with
  | error e => simp
  | ok schema => simp [mapError_eq_ok]

/-- A document that comes again, anywhere after it came first, changes nothing: the documents make
the same model, or fail to make one for the same reason. -/
theorem ofDocuments_again (before mid later : List Document) (document : Document) :
    ofDocuments (before ++ document :: (mid ++ document :: later)) =
      ofDocuments (before ++ document :: (mid ++ later)) := by
  cases before with
  | nil => simp only [ofDocuments, List.nil_append, Schema.ofDocuments_first_again]
  | cons first before =>
    simp only [ofDocuments, List.cons_append, Schema.ofDocuments_later_again]

end Model

end ClassModel
