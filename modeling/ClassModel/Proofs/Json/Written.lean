import ClassModel.Json.Reader
import ClassModel.Json.Writer
import ClassModel.Proofs.Except

/-!
# Written values read back

What the reader makes of the text of a value, wherever that text stands in a longer one.

* `Json.run_quote` — a written string is one token, each character a piece of its own;
* `Json.Denotes` — the tree that the text of a value stands for, whatever comes before and after,
  with a rule for each kind of value that is no number;
* `Json.ReadsAs` — what a reader makes of that tree, with a rule for lists and one for records;
* `Json.readWhole_compactText` — a whole text is read as its value is.
-/

namespace ClassModel.Json

/-! ## Strings -/

/-- A string whose characters stand for themselves. -/
def Quoted.plain (s : String) : Quoted := ⟨s.toList.map .char, none⟩

theorem Quoted.chars?_map_char (cs : List Char) : Quoted.chars? (cs.map .char) = some cs := by
  induction cs with
  | nil => rfl
  | cons c rest ih => simp [Quoted.chars?, ih]

@[simp] theorem Quoted.read_plain (s : String) : (Quoted.plain s).read = .ok s := by
  simp [Quoted.plain, Quoted.read, Quoted.chars?_map_char]

/-- A step of the scanner that completes no token. -/
theorem Scan.run_of_step {scan next : Scan} {c : Char} (h : scan.step c = ([], some next))
    (rest : List Char) : scan.run (c :: rest) = next.run rest := by
  rw [Scan.run, h]
  rfl

theorem hexValue?_hexDigit {n : Nat} (h : n < 16) :
    hexValue? (hexDigit n) = some n ∧ (hexDigit n).utf8Size = 1 := by
  have hall : ∀ n < 16, hexValue? (hexDigit n) = some n ∧ (hexDigit n).utf8Size = 1 := by decide
  exact hall n h

/-- A control character without a letter of its own is read from its number. -/
theorem run_escape_control (pieces : List Piece) {c : Char} (h : c.toNat < 0x20)
    (rest : List Char) :
    (Scan.text pieces).run
        ('\\' :: 'u' :: '0' :: '0' :: hexDigit (c.toNat / 16) :: hexDigit c.toNat :: rest) =
      (Scan.text (.char c :: pieces)).run rest := by
  have hmod : hexDigit c.toNat = hexDigit (c.toNat % 16) := by simp [hexDigit]
  rcases hexValue?_hexDigit (n := c.toNat / 16) (by omega) with ⟨hhigh, hhighSize⟩
  rcases hexValue?_hexDigit (n := c.toNat % 16) (by omega) with ⟨hlow, hlowSize⟩
  -- Two zeros first, which only count as bytes.
  have hzeros : (Scan.text pieces).run
        ('\\' :: 'u' :: '0' :: '0' :: hexDigit (c.toNat / 16) :: hexDigit c.toNat :: rest) =
      (Scan.unit pieces (some 0) 2).run
        (hexDigit (c.toNat / 16) :: hexDigit (c.toNat % 16) :: rest) := by
    rw [hmod]
    rfl
  have hfirst : (Scan.unit pieces (some 0) 2).step (hexDigit (c.toNat / 16)) =
      ([], some (.unit pieces (some (c.toNat / 16)) 3)) := by
    simp [Scan.step, hhigh, hhighSize]
  have hunit : Piece.ofUnit (16 * (c.toNat / 16) + c.toNat % 16) = .char c := by
    rw [Nat.div_add_mod, Piece.ofUnit, if_neg (by omega), Char.ofNat_toNat]
  have hsecond : (Scan.unit pieces (some (c.toNat / 16)) 3).step (hexDigit (c.toNat % 16)) =
      ([], some (.text (.char c :: pieces))) := by
    simp [Scan.step, hlow, hlowSize, hunit]
  rw [hzeros, Scan.run_of_step hfirst, Scan.run_of_step hsecond]

/-- What is written for a character inside a string is read as the character. -/
theorem run_escape (pieces : List Piece) (c : Char) (rest : List Char) :
    (Scan.text pieces).run (escape c ++ rest) = (Scan.text (.char c :: pieces)).run rest := by
  unfold escape
  split
  case h_8 hquote hbackslash _ _ _ _ _ =>
    split
    · next hcontrol => exact run_escape_control pieces hcontrol rest
    · next hraw =>
      refine Scan.run_of_step ?_ rest
      rw [Scan.step, if_neg hquote, if_neg hbackslash, if_neg hraw]
  all_goals rfl

theorem run_escapes (cs : List Char) (pieces : List Piece) (rest : List Char) :
    (Scan.text pieces).run (cs.flatMap escape ++ '"' :: rest) =
      .text ⟨pieces.reverse ++ cs.map .char, none⟩ :: Scan.between.run rest := by
  induction cs generalizing pieces with
  | nil => simp [Scan.run, Scan.step]
  | cons c cs ih =>
    rw [List.flatMap_cons, List.append_assoc, run_escape, ih]
    simp

/-- A written string is a single token. -/
theorem run_quote (s : String) (rest : List Char) :
    Scan.between.run (quote s ++ rest) = .text (.plain s) :: Scan.between.run rest := by
  have hopen : Scan.between.step '"' = ([], some (.text [])) := rfl
  have hbody := run_escapes s.toList [] rest
  rw [quote, List.append_assoc, List.cons_append, Scan.run_of_step hopen]
  simpa [Quoted.plain] using hbody

/-! ## Values -/

/-- A step of the assembly that does not stop. -/
theorem Assembly.run_of_step {assembly next : Assembly} {token : Token}
    (h : assembly.step token = .inl next) (rest : List Token) :
    assembly.run (token :: rest) = next.run rest := by
  cases assembly with
  | done tree => simp [Assembly.step] at h
  | _ => rw [Assembly.run, h]; exact fun _ => nofun

/-- The text of a value, wherever a value is awaited and whatever comes after it, is read as a
tree. Where the value is the first of a list, it must not look like the end of the list. -/
structure Denotes (value : Json) (tree : Tree) : Prop where
  begins : ∀ rest, ∃ token tokens,
    Scan.between.run (compact value ++ rest) = token :: tokens ∧ token ≠ .closeList
  reads : ∀ frames rest,
    (Assembly.atValue frames).run (Scan.between.run (compact value ++ rest)) =
      (Assembly.deliver tree frames).run (Scan.between.run rest)

theorem denotes_null : Denotes .null .null where
  begins rest := ⟨.null, Scan.between.run rest, rfl, nofun⟩
  reads _ rest := Assembly.run_of_step rfl (Scan.between.run rest)

theorem denotes_text (s : String) : Denotes (.text s) (.text (.plain s)) where
  begins rest := ⟨.text (.plain s), Scan.between.run rest, run_quote s rest, nofun⟩
  reads frames rest := by
    rw [compact, run_quote]
    exact Assembly.run_of_step rfl (Scan.between.run rest)

theorem compactItems_cons_cons (item next : Json) (items : List Json) :
    compactItems (item :: next :: items) = compact item ++ ',' :: compactItems (next :: items) := by
  rw [compactItems]
  nofun

/-- The items of a list from some item to the end. -/
theorem run_items {item : Json} {tree : Tree} (hitem : Denotes item tree) {items : List Json}
    {trees : List Tree} (h : List.Forall₂ Denotes items trees) (before : List Tree)
    (frames : List Frame) (rest : List Char) :
    (Assembly.atValue (.item before :: frames)).run
        (Scan.between.run (compactItems (item :: items) ++ ']' :: rest)) =
      (Assembly.deliver (.list (before.reverse ++ tree :: trees) none) frames).run
        (Scan.between.run rest) := by
  -- On the items still to come; the one just read goes to those before.
  induction h generalizing item tree before with
  | nil =>
    have hclose : (Assembly.afterItem (tree :: before) frames).run
        (Scan.between.run (']' :: rest)) =
        (Assembly.deliver (.list (tree :: before).reverse none) frames).run
          (Scan.between.run rest) :=
      Assembly.run_of_step rfl _
    rw [compactItems, hitem.reads, Assembly.deliver, hclose, List.reverse_cons]
  | @cons next nextTree items trees hnext _ ih =>
    have hcomma : (Assembly.afterItem (tree :: before) frames).run
        (Scan.between.run (',' :: (compactItems (next :: items) ++ ']' :: rest))) =
        (Assembly.atValue (.item (tree :: before) :: frames)).run
          (Scan.between.run (compactItems (next :: items) ++ ']' :: rest)) :=
      Assembly.run_of_step rfl _
    rw [compactItems_cons_cons, List.append_assoc, List.cons_append, hitem.reads,
      Assembly.deliver, hcomma, ih hnext, List.reverse_cons, List.append_assoc,
      List.singleton_append]

/-- A list whose first item has begun goes on as one that awaits an item. -/
theorem run_atFirstItem {token : Token} (h : token ≠ .closeList) (frames : List Frame)
    (tokens : List Token) :
    (Assembly.atFirstItem frames).run (token :: tokens) =
      (Assembly.atValue (.item [] :: frames)).run (token :: tokens) := by
  simp [Assembly.run, Assembly.step, h]

theorem denotes_list {items : List Json} {trees : List Tree}
    (h : List.Forall₂ Denotes items trees) : Denotes (.list items) (.list trees none) where
  begins rest := ⟨.openList, _, rfl, nofun⟩
  reads frames rest := by
    have hopen : (Assembly.atValue frames).run
        (Scan.between.run (compact (.list items) ++ rest)) =
        (Assembly.atFirstItem frames).run
          (Scan.between.run (compactItems items ++ ']' :: rest)) := by
      rw [compact, List.append_assoc]
      exact Assembly.run_of_step rfl _
    rw [hopen]
    cases h with
    | nil => exact Assembly.run_of_step rfl (Scan.between.run rest)
    | @cons item tree items trees hitem hitems =>
      -- A list that has just been opened looks for its end first, and no item begins like that.
      have hfirst : ∃ tail, compactItems (item :: items) = compact item ++ tail := by
        cases items with
        | nil => exact ⟨[], by rw [compactItems, List.append_nil]⟩
        | cons next items => exact ⟨_, compactItems_cons_cons item next items⟩
      rcases hfirst with ⟨tail, htail⟩
      rcases hitem.begins (tail ++ ']' :: rest) with ⟨token, tokens, hbegins, htoken⟩
      rw [← List.append_assoc, ← htail] at hbegins
      rw [hbegins, run_atFirstItem htoken, ← hbegins]
      exact run_items hitem hitems [] frames rest

/-! ### Objects -/

/-- A key and its value, as the writer has them and as the reader meets them. -/
def Paired (member : String × Json) (entry : Quoted × Tree) : Prop :=
  entry.1 = .plain member.1 ∧ Denotes member.2 entry.2

theorem compactMembers_cons_cons (member next : String × Json) (members : List (String × Json)) :
    compactMembers (member :: next :: members) =
      quote member.1 ++ ':' :: compact member.2 ++ ',' :: compactMembers (next :: members) := by
  rw [compactMembers]
  nofun

/-- One member of an object. -/
theorem run_member {member : String × Json} {entry : Quoted × Tree} (h : Paired member entry)
    (before : List (Quoted × Tree)) (frames : List Frame) (rest : List Char) :
    (Assembly.atKey before frames).run
        (Scan.between.run (quote member.1 ++ ':' :: compact member.2 ++ rest)) =
      (Assembly.afterMember (entry :: before) frames).run (Scan.between.run rest) := by
  obtain ⟨name, value⟩ := member
  obtain ⟨key, tree⟩ := entry
  rcases h with ⟨rfl, hvalue⟩
  have hkey : (Assembly.atKey before frames).step (.text (.plain name)) =
      .inl (.atColon before (.plain name) frames) := rfl
  have hcolon : (Assembly.atColon before (.plain name) frames).run
      (Scan.between.run (':' :: (compact value ++ rest))) =
      (Assembly.atValue (.member before (.plain name) :: frames)).run
        (Scan.between.run (compact value ++ rest)) :=
    Assembly.run_of_step rfl _
  rw [List.append_assoc, List.cons_append, run_quote, Assembly.run_of_step hkey, hcolon,
    hvalue.reads, Assembly.deliver]

/-- The members of an object from some member to the end. -/
theorem run_members {member : String × Json} {entry : Quoted × Tree} (hmember : Paired member entry)
    {members : List (String × Json)} {entries : List (Quoted × Tree)}
    (h : List.Forall₂ Paired members entries) (before : List (Quoted × Tree))
    (frames : List Frame) (rest : List Char) :
    (Assembly.atKey before frames).run
        (Scan.between.run (compactMembers (member :: members) ++ '}' :: rest)) =
      (Assembly.deliver (.object (before.reverse ++ entry :: entries) none) frames).run
        (Scan.between.run rest) := by
  induction h generalizing member entry before with
  | nil =>
    have hclose : (Assembly.afterMember (entry :: before) frames).run
        (Scan.between.run ('}' :: rest)) =
        (Assembly.deliver (.object (entry :: before).reverse none) frames).run
          (Scan.between.run rest) :=
      Assembly.run_of_step rfl _
    rw [compactMembers, run_member hmember, hclose, List.reverse_cons]
  | @cons next nextEntry members entries hnext _ ih =>
    have hcomma : (Assembly.afterMember (entry :: before) frames).run
        (Scan.between.run (',' :: (compactMembers (next :: members) ++ '}' :: rest))) =
        (Assembly.atKey (entry :: before) frames).run
          (Scan.between.run (compactMembers (next :: members) ++ '}' :: rest)) :=
      Assembly.run_of_step rfl _
    rw [compactMembers_cons_cons, List.append_assoc, run_member hmember, List.cons_append,
      hcomma, ih hnext, List.reverse_cons, List.append_assoc, List.singleton_append]

theorem denotes_object {members : List (String × Json)} {entries : List (Quoted × Tree)}
    (h : List.Forall₂ Paired members entries) :
    Denotes (.object members) (.object entries none) where
  begins rest := ⟨.openObject, _, rfl, nofun⟩
  reads frames rest := by
    have hopen : (Assembly.atValue frames).run
        (Scan.between.run (compact (.object members) ++ rest)) =
        (Assembly.atFirstKey frames).run
          (Scan.between.run (compactMembers members ++ '}' :: rest)) := by
      rw [compact, List.append_assoc]
      exact Assembly.run_of_step rfl _
    rw [hopen]
    cases h with
    | nil => exact Assembly.run_of_step rfl (Scan.between.run rest)
    | @cons member entry members entries hmember hmembers =>
      -- The first key is a string, and what comes before it makes no difference to a string.
      have hfirst : ∃ tail, compactMembers (member :: members) = quote member.1 ++ tail := by
        cases members with
        | nil => exact ⟨_, by rw [compactMembers]⟩
        | cons next members =>
          exact ⟨_, by rw [compactMembers_cons_cons, List.append_assoc]⟩
      rcases hfirst with ⟨tail, htail⟩
      have hkey : (Assembly.atFirstKey frames).run
          (Scan.between.run (compactMembers (member :: members) ++ '}' :: rest)) =
          (Assembly.atKey [] frames).run
            (Scan.between.run (compactMembers (member :: members) ++ '}' :: rest)) := by
        rw [htail, List.append_assoc, run_quote]
        rfl
      rw [hkey]
      exact run_members hmember hmembers [] frames rest

/-! ## Whole texts -/

/-- The text of a value has the tree of the value, and nothing comes after it. -/
theorem treeOf_compact {value : Json} {tree : Tree} (h : Denotes value tree) :
    treeOf (compact value) = (tree, false) := by
  have hreads := h.reads [] []
  rw [List.append_nil] at hreads
  exact hreads

variable {α : Type}

/-- A reader takes the tree of a value to a result. -/
def ReadsAs (read : Nat → Tree → Read α) (room : Nat) (value : Json) (result : α) : Prop :=
  ∃ tree, Denotes value tree ∧ read room tree = .ok result

/-- A whole text is read as its value is. -/
theorem readWhole_compactText {read : Nat → Tree → Read α} {value : Json} {result : α}
    (h : ReadsAs read levels value result) :
    readWhole read (compactText value) = .ok result := by
  rcases h with ⟨tree, htree, hread⟩
  simp [readWhole, compactText, treeOf_compact htree, hread, bind, Except.bind, pure, Except.pure]

theorem readsAs_text (room : Nat) (s : String) :
    ReadsAs (fun _ => Tree.readText) room (.text s) s :=
  ⟨_, denotes_text s, Quoted.read_plain s⟩

theorem readsAs_text? (room : Nat) (s : Option String) :
    ReadsAs (fun _ => Tree.readText?) room (.ofText? s) s := by
  cases s with
  | none => exact ⟨_, denotes_null, rfl⟩
  | some s =>
    refine ⟨_, denotes_text s, ?_⟩
    simp [Tree.readText?, Tree.readText]

/-- A list is read as its items are. -/
theorem readsAs_list {read : Nat → Tree → Read α} {room : Nat} {write : α → Json} {results : List α}
    (h : ∀ result ∈ results, ReadsAs read (room + 1) (write result) result) :
    ReadsAs (Tree.readList read) (room + 2) (.list (results.map write)) results := by
  have htrees : ∃ trees, List.Forall₂ Denotes (results.map write) trees ∧
      trees.mapM (read (room + 1)) = .ok results := by
    induction results with
    | nil => exact ⟨[], .nil, rfl⟩
    | cons result results ih =>
      rcases List.forall_mem_cons.1 h with ⟨⟨tree, htree, hread⟩, hrest⟩
      rcases ih hrest with ⟨trees, htrees, hreads⟩
      refine ⟨tree :: trees, .cons htree htrees, ?_⟩
      rw [List.mapM_cons, hread, hreads]
      rfl
  rcases htrees with ⟨trees, htrees, hreads⟩
  refine ⟨_, denotes_list htrees, ?_⟩
  simp [Tree.readList, enter, hreads, passEnd, bind, Except.bind, pure, Except.pure]

theorem readsAs_texts (room : Nat) (values : List String) :
    ReadsAs Tree.readTexts (room + 2) (.texts values) values :=
  readsAs_list fun value _ => readsAs_text (room + 1) value

theorem ReadsAs.map {β : Type} {read : Nat → Tree → Read α} {room : Nat} {value : Json}
    {result : α} (f : α → β) (h : ReadsAs read room value result) :
    ReadsAs (fun room tree => f <$> read room tree) room value (f result) := by
  rcases h with ⟨tree, htree, hread⟩
  refine ⟨tree, htree, ?_⟩
  simp only [hread]
  rfl

/-! ### Records -/

/-- A member stands in the column of its key, and is read as the part found there. -/
def InColumn (columns : List (Column α)) (room : Nat) (member : String × Json)
    (part : String × α) : Prop :=
  member.1 = part.1 ∧
    ∃ read, Entries.get? part.1 columns = some read ∧ ReadsAs read room member.2 part.2

theorem readColumns_cons {columns : List (Column α)} {room : Nat} {part : String × α}
    {read : Nat → Tree → Read α} {tree : Tree} {found : Entries α}
    (hcolumn : Entries.get? part.1 columns = some read) (hread : read room tree = .ok part.2)
    (hfresh : found.get? part.1 = none) (rest : List (Quoted × Tree)) :
    readColumns columns room found ((.plain part.1, tree) :: rest) =
      readColumns columns room (found.put part.1 part.2) rest := by
  simp [readColumns, hcolumn, hfresh, hread, bind, Except.bind]

/-- A record whose members stand in columns of their own is read as its members are. -/
theorem readsAs_record {columns : List (Column α)} {room : Nat} {members : List (String × Json)}
    {parts : List (String × α)} (h : List.Forall₂ (InColumn columns (room + 1)) members parts)
    (hdistinct : (parts.map (·.1)).Nodup) :
    ReadsAs (Tree.readRecord columns) (room + 2) (.object members) (Entries.ofPairs parts) := by
  -- The keys still to come are none of those found, so no key is met twice.
  have hentries : ∀ found : Entries α, (∀ part ∈ parts, found.get? part.1 = none) →
      ∃ entries, List.Forall₂ Paired members entries ∧
        readColumns columns (room + 1) found entries =
          .ok (parts.foldl (fun found part => found.put part.1 part.2) found) := by
    induction h with
    | nil => exact fun found _ => ⟨[], .nil, rfl⟩
    | @cons member part members parts hmember _ ih =>
      intro found hfresh
      rcases hmember with ⟨hkey, read, hcolumn, tree, htree, hread⟩
      rcases List.nodup_cons.1 hdistinct with ⟨hother, hrest⟩
      rcases List.forall_mem_cons.1 hfresh with ⟨hpart, hparts⟩
      have hstill : ∀ next ∈ parts, (found.put part.1 part.2).get? next.1 = none := by
        intro next hnext
        have hne : part.1 ≠ next.1 := fun heq =>
          hother (List.mem_map.2 ⟨next, hnext, heq.symm⟩)
        rw [Entries.get?_put, if_neg hne, hparts next hnext]
      rcases ih hrest (found.put part.1 part.2) hstill with ⟨entries, hpaired, hreads⟩
      have hpair : Paired member (.plain part.1, tree) :=
        ⟨congrArg Quoted.plain hkey.symm, htree⟩
      refine ⟨(.plain part.1, tree) :: entries, .cons hpair hpaired, ?_⟩
      rw [readColumns_cons hcolumn hread hpart, hreads, List.foldl_cons]
  rcases hentries [] fun _ _ => rfl with ⟨entries, hpaired, hreads⟩
  refine ⟨_, denotes_object hpaired, ?_⟩
  simp [Tree.readRecord, enter, hreads, passEnd, bind, Except.bind, pure, Except.pure,
    Entries.ofPairs]

end ClassModel.Json
