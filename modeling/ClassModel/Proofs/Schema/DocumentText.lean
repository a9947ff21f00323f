import ClassModel.Model.Build
import ClassModel.Proofs.Json.Written
import ClassModel.Schema.Document

/-!
# Documents as texts

A schema document, written as JSON and read again, is the document it was.

* `FieldDeclaration.readsAs_json`, `ClassEntry.readsAs_json`, `Document.readsAs_json` — what is
  written for each part of a document is read as the part;
* `Document.written_and_read` — whole documents, with the declarations and the models they make.
-/

namespace ClassModel

open Json (ReadsAs Paired Read Denotes)

namespace FieldDeclaration

variable {room : Nat}

/-- A text as a member of a field entry, whose shape is not known yet. -/
theorem readsAs_text (s : String) : ReadsAs Json.Tree.read room (.text s) (.text s) := by
  refine ⟨_, Json.denotes_text s, ?_⟩
  rw [Json.Tree.read, Json.Quoted.read_plain]
  rfl

theorem readsAs_text? (s : Option String) :
    ReadsAs Json.Tree.read room (.ofText? s) (.ofText? s) := by
  cases s with
  | none => exact ⟨_, Json.denotes_null, by rw [Json.Tree.read]; rfl⟩
  | some s => exact readsAs_text s

/-- A field entry that begins with the kind is read as its other members say. -/
theorem readsAs_ofMembers (sort : FieldSort) {members : List (String × Json)}
    {f : FieldDeclaration}
    (hmembers : ∀ member ∈ members, member.1 ≠ kindKey ∧
      ReadsAs Json.Tree.read (room + 1) member.2 member.2)
    (hf : ofMembers sort members = .ok f) :
    ReadsAs read (room + 2) (.object (("kind", .text sort.name) :: members)) f := by
  -- After the kind the members are kept as they are, for the kind to say what they must be.
  have hentries : ∃ entries, List.Forall₂ Paired members entries ∧
      readMembers (room + 1) (some sort) entries = .ok (some sort, members) := by
    clear hf
    induction members with
    | nil => exact ⟨[], .nil, rfl⟩
    | cons member members ih =>
      rcases List.forall_mem_cons.1 hmembers with ⟨⟨hkey, tree, htree, hread⟩, hrest⟩
      rcases ih hrest with ⟨entries, hpaired, hreads⟩
      refine ⟨(.plain member.1, tree) :: entries, .cons ⟨rfl, htree⟩ hpaired, ?_⟩
      simp [readMembers, hkey, hread, hreads, bind, Except.bind, pure, Except.pure]
  rcases hentries with ⟨entries, hpaired, hreads⟩
  have hkind : Paired ("kind", .text sort.name) (.plain "kind", .text (.plain sort.name)) :=
    ⟨rfl, Json.denotes_text sort.name⟩
  have hsort : readSort (.text (.plain sort.name)) = .ok sort := by
    rw [readSort, Json.Tree.readText, Json.Quoted.read_plain]
    cases sort <;> rfl
  refine ⟨_, Json.denotes_object (.cons hkind hpaired), ?_⟩
  simp [read, Json.enter, readMembers, kindKey, hsort, hreads, hf, Json.passEnd, bind, Except.bind]

/-- What is written for a field is read as the field. -/
theorem readsAs_json (f : FieldDeclaration) : ReadsAs read (room + 2) f.json f := by
  obtain ⟨name, kind⟩ := f
  have hlinked (link : Link) : ∀ member ∈ [("name", Json.text name),
      ("referenced_type", .text link.target), ("reverse_reference", .ofText? link.reverse)],
      member.1 ≠ kindKey ∧ ReadsAs Json.Tree.read (room + 1) member.2 member.2 := by
    simp [kindKey, readsAs_text, readsAs_text?]
  cases kind with
  | attr declaredType =>
    have hmembers : ∀ member ∈ [("name", Json.text name), ("type", .text declaredType)],
        member.1 ≠ kindKey ∧ ReadsAs Json.Tree.read (room + 1) member.2 member.2 := by
      simp [kindKey, readsAs_text]
    exact readsAs_ofMembers .attr hmembers rfl
  | reference link =>
    obtain ⟨target, reverse⟩ := link
    refine readsAs_ofMembers .reference (hlinked ⟨target, reverse⟩) ?_
    cases reverse <;> rfl
  | collection link =>
    obtain ⟨target, reverse⟩ := link
    refine readsAs_ofMembers .collection (hlinked ⟨target, reverse⟩) ?_
    cases reverse <;> rfl

end FieldDeclaration

/-- What is written for a class is read as the class. -/
theorem ClassEntry.readsAs_json (room : Nat) (entry : ClassEntry) :
    ReadsAs ClassEntry.read (room + 4) entry.json entry := by
  have hname : Json.InColumn ClassEntry.columns (room + 3) ("name", .text entry.name)
      ("name", .name entry.name) :=
    ⟨rfl, _, rfl, (Json.readsAs_text _ entry.name).map ClassEntry.Part.name⟩
  have hparents : Json.InColumn ClassEntry.columns (room + 3) ("extends", .texts entry.parents)
      ("extends", .parents entry.parents) :=
    ⟨rfl, _, rfl, (Json.readsAs_texts _ entry.parents).map ClassEntry.Part.parents⟩
  have hfields : Json.InColumn ClassEntry.columns (room + 3)
      ("fields", .list (entry.fields.map FieldDeclaration.json))
      ("fields", .fields entry.fields) :=
    ⟨rfl, _, rfl, (Json.readsAs_list fun f _ => f.readsAs_json).map ClassEntry.Part.fields⟩
  rcases Json.readsAs_record (.cons hname (.cons hparents (.cons hfields .nil))) (by simp) with
    ⟨tree, htree, hread⟩
  refine ⟨tree, htree, ?_⟩
  rw [ClassEntry.read, hread]
  simp [Entries.ofPairs, Entries.get?_put, bind, Except.bind, pure, Except.pure]

/-- What is written for a document is read as the document. -/
theorem Document.readsAs_json (room : Nat) (document : Document) :
    ReadsAs Document.read (room + 6) document.json document := by
  have hname : Json.InColumn Document.columns (room + 5) ("name", .text document.name)
      ("name", .name document.name) :=
    ⟨rfl, _, rfl, (Json.readsAs_text _ document.name).map Document.Part.name⟩
  have hqualifier : Json.InColumn Document.columns (room + 5)
      ("namespace", .ofText? document.qualifier) ("namespace", .qualifier document.qualifier) :=
    ⟨rfl, _, rfl, (Json.readsAs_text? _ document.qualifier).map Document.Part.qualifier⟩
  have hclasses : Json.InColumn Document.columns (room + 5)
      ("classes", .list (document.classes.map ClassEntry.json))
      ("classes", .classes document.classes) :=
    have hlist := Json.readsAs_list fun entry (_ : entry ∈ document.classes) =>
      entry.readsAs_json room
    ⟨rfl, _, rfl, hlist.map Document.Part.classes⟩
  rcases Json.readsAs_record (.cons hname (.cons hqualifier (.cons hclasses .nil)))
    (by simp) with ⟨tree, htree, hread⟩
  refine ⟨tree, htree, ?_⟩
  rw [Document.read, hread]
  simp [Entries.ofPairs, Entries.get?_put, bind, Except.bind, pure, Except.pure]

theorem Document.ofText_json (document : Document) :
    ofText (Json.compactText document.json) = .ok document :=
  Json.readWhole_compactText (document.readsAs_json 122)

/-- A document that is written and read again is the same document, so it declares the same, and
documents that are each written and read again make the same model or fail alike. -/
theorem Document.written_and_read (document : Document) (documents : List Document) :
    ofText (Json.compactText document.json) = .ok document ∧
    declarations <$> ofText (Json.compactText document.json) = .ok document.declarations ∧
    Model.ofDocuments <$>
        documents.mapM (fun document => ofText (Json.compactText document.json)) =
      .ok (Model.ofDocuments documents) := by
  refine ⟨document.ofText_json, ?_, ?_⟩
  · rw [document.ofText_json]
    rfl
  · have hall : documents.mapM (fun document => ofText (Json.compactText document.json)) =
        .ok documents :=
      mapM_eq_ok.mpr (List.forall₂_same.mpr fun document _ => document.ofText_json)
    rw [hall]
    rfl

end ClassModel
