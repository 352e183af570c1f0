import OlapClient.Proofs.Markup.Written
import OlapClient.Proofs.Result
import OlapClient.Proofs.Soap.Document
import OlapClient.Rowset.Response

namespace OlapClient.Rowset

open Markup
open Soap (Document isAside isPlain_of_isAside)

/-!
# Columns of a schema

The columns of a table are those that the type of the rows declares. Types may be nested: a column
may have a type of its own, which is written inside its declaration. The decoder does not follow
where types end; it keeps whether the type that began last is that of the rows.

* `schemas` — the schemas of a content.
* `declarations` — the declarations of a schema, each with the type around it and the type that began
  last before it.
* `Progress.Reaches` — what reading some events declares.
* `Progress.run_schema`, `Progress.run_content` — reading a schema, and a content with schemas.
* `columns_of_row_type` — the columns of a response with one schema.
-/

/-! ### Schemas -/

/-- The contents of the schemas in a content, in document order. What stands in a schema belongs to
it. -/
def schemas : Content → List Content
  | .nil => []
  | .event _ _ rest => schemas rest
  | .empty tag rest => if tag.localName = "schema" then .nil :: schemas rest else schemas rest
  | .element tag inner rest =>
    if tag.localName = "schema" then inner :: schemas rest else schemas inner ++ schemas rest

/-- A declaration of a schema. -/
structure Declaration where
  tag : Tag
  /-- The nearest type around it is that of the rows. -/
  inRow : Bool
  /-- The type that began last before it is that of the rows. -/
  afterRow : Bool
deriving DecidableEq

/-- The label of the column that a declaration stands for. It has none without a name. -/
def Declaration.label? (x : Declaration) : Option String :=
  (Column.ofDeclaration x.tag).map (·.label)

/-- Whether the type of the rows holds after a start tag: a type holds if it is that one, and any
other tag changes nothing. -/
def rowTypeAfter (tag : Tag) (current : Bool) : Bool :=
  if tag.localName = "complexType" then tag.attribute? "name" == some "row" else current

/-- The declaration that a tag makes, if it makes one. -/
def declarationOf (tag : Tag) (inRow afterRow : Bool) : List Declaration :=
  if tag.localName = "element" then [⟨tag, inRow, afterRow⟩] else []

/-- Whether the type that began last is that of the rows, after a content. -/
def lastRow (afterRow : Bool) : Content → Bool
  | .nil => afterRow
  | .event _ _ rest => lastRow afterRow rest
  | .empty _ rest => lastRow afterRow rest
  | .element tag inner rest => lastRow (lastRow (rowTypeAfter tag afterRow) inner) rest

/-- The declarations in a content, in document order. The type around a declaration holds to its end
tag, and the type that began last holds until another begins. -/
def declarations (inRow afterRow : Bool) : Content → List Declaration
  | .nil => []
  | .event _ _ rest => declarations inRow afterRow rest
  | .empty tag rest => declarationOf tag inRow afterRow ++ declarations inRow afterRow rest
  | .element tag inner rest =>
    declarationOf tag inRow afterRow ++
      declarations (rowTypeAfter tag inRow) (rowTypeAfter tag afterRow) inner ++
      declarations inRow (lastRow (rowTypeAfter tag afterRow) inner) rest

/-- The declarations of a schema, which begins in no type. -/
def schemaDeclarations (schema : Content) : List Declaration :=
  declarations false false schema

/-! ### Reading declarations -/

namespace Progress

variable {p q r : Progress} {e : Event} {es fs : List Event} {tag : Tag}
  {s s' : Option SchemaScope} {ds ds' : List Declaration}

theorem run_cons_eq_ok (h : p.run (e :: es) = .ok q) :
    ∃ m, p.step e = .ok m ∧ m.run es = .ok q := by
  unfold run at h
  split at h
  · cases h
  · rename_i m hstep
    exact ⟨m, hstep, h⟩

theorem run_append_eq_ok (h : p.run (es ++ fs) = .ok q) :
    ∃ m, p.run es = .ok m ∧ m.run fs = .ok q := by
  rw [run_append_eq] at h
  cases hes : p.run es with
  | error err =>
    rw [hes] at h
    cases h
  | ok m =>
    rw [hes] at h
    exact ⟨m, rfl, h⟩

/-- An element is read from its start tag to its end tag, and then what follows it. -/
theorem run_element_eq_ok {name : Bytes}
    (h : p.run (.start tag :: (es ++ .close name :: fs)) = .ok q) :
    ∃ m m', p.onStart tag = .ok m ∧ m.run es = .ok m' ∧ m'.onClose.run fs = .ok q := by
  obtain ⟨m, hstart, hafter⟩ := run_cons_eq_ok h
  obtain ⟨m', hinner, hbehind⟩ := run_append_eq_ok hafter
  obtain ⟨m'', hclose, hrest⟩ := run_cons_eq_ok hbehind
  cases hclose
  exact ⟨m, m', hstart, hinner, hrest⟩

/-- From one state another is reached that stands at the given place of a schema. The columns that
were declared on the way are those of the declarations after the type of the rows. -/
structure Reaches (p q : Progress) (s : Option SchemaScope) (ds : List Declaration) : Prop where
  schema : q.schema = s
  declared : ∃ columns : List Column, q.declared = p.declared ++ columns ∧
    columns.map some = (ds.filter (·.afterRow)).map (Column.ofDeclaration ·.tag)

theorem Reaches.refl (h : p.schema = s) : p.Reaches p s [] :=
  ⟨h, [], by simp, rfl⟩

theorem Reaches.trans (h : p.Reaches q s ds) (h' : q.Reaches r s' ds') :
    p.Reaches r s' (ds ++ ds') := by
  obtain ⟨columns, hdeclared, hcolumns⟩ := h.declared
  obtain ⟨columns', hdeclared', hcolumns'⟩ := h'.declared
  refine ⟨h'.schema, columns ++ columns', ?_, ?_⟩
  · rw [hdeclared', hdeclared, List.append_assoc]
  · rw [List.map_append, hcolumns, hcolumns', List.filter_append, List.map_append]

/-- Columns that stay as they are. -/
theorem Reaches.of_eq (hschema : q.schema = s) (hdeclared : q.declared = p.declared) :
    p.Reaches q s [] :=
  ⟨hschema, [], by simp [hdeclared], rfl⟩

theorem note_schema (p : Progress) (name : String) : (p.note name).schema = p.schema := by
  unfold note
  split <;> rfl

theorem note_declared (p : Progress) (name : String) : (p.note name).declared = p.declared := by
  unfold note
  split <;> rfl

/-- A tag in a schema declares a column where it makes a declaration after the type of the rows. -/
theorem declare_reaches {inner : Nat} {flag : Bool} (inRow : Bool)
    (hp : p.schema = some ⟨inner, flag⟩)
    (h : (if tag.localName = "element" ∧ flag = true then p.declare tag else .ok p) = .ok q) :
    p.Reaches q (some ⟨inner, flag⟩) (declarationOf tag inRow flag) := by
  unfold declarationOf
  split at h
  · rename_i hboth
    unfold declare at h
    split at h
    · cases h
    · rename_i column hcolumn
      cases h
      exact ⟨hp, [column], rfl, by simp [hboth.1, hboth.2, hcolumn]⟩
  · rename_i hnot
    cases h
    by_cases hname : tag.localName = "element"
    · have hflag : flag = false := by simpa [hname] using hnot
      exact ⟨hp, [], by simp, by simp [hname, hflag]⟩
    · exact ⟨hp, [], by simp, by simp [hname]⟩

theorem onStart_reaches {inner : Nat} {flag : Bool} (inRow : Bool)
    (hp : p.schema = some ⟨inner, flag⟩) (h : p.onStart tag = .ok q) :
    p.Reaches q (some ⟨inner + 1, rowTypeAfter tag flag⟩) (declarationOf tag inRow flag) := by
  simp only [onStart, hp] at h
  unfold rowTypeAfter
  split at h
  · rename_i hname
    -- a type is no declaration
    cases h
    have hnone : declarationOf tag inRow flag = [] := by simp [declarationOf, hname]
    rw [if_pos hname, hnone]
    exact .of_eq rfl rfl
  · rename_i hname
    rw [if_neg hname]
    obtain ⟨hschema, columns, hdeclared, hcolumns⟩ := declare_reaches inRow rfl h
    exact ⟨hschema, columns, hdeclared, hcolumns⟩

theorem onEmpty_reaches {inner : Nat} {flag : Bool} (inRow : Bool)
    (hp : p.schema = some ⟨inner, flag⟩) (h : p.onEmpty tag = .ok q) :
    p.Reaches q (some ⟨inner, flag⟩) (declarationOf tag inRow flag) := by
  simp only [onEmpty, hp] at h
  exact declare_reaches inRow hp h

theorem step_plain_reaches (he : e.isPlain = true) (h : p.step e = .ok q) :
    p.Reaches q p.schema [] := by
  have htext : ∀ text, p.onText text = .ok q → p.Reaches q p.schema [] := by
    intro text h
    unfold onText at h
    split at h
    · split at h
      · cases h
      · cases h
        exact .of_eq rfl rfl
    · cases h
      exact .refl rfl
  cases e with
  | start tag => cases he
  | empty tag => cases he
  | close name => cases he
  | text raw => exact htext _ h
  | cdata raw => exact htext (.ok (Utf8.lossyString raw)) h
  | _ =>
    cases h
    exact .refl rfl

/-- The columns that reading a schema declares are its declarations after the type of the rows. -/
theorem run_schema {inner : Nat} {flag : Bool} (inRow : Bool) (c : Content)
    (hp : p.schema = some ⟨inner, flag⟩) (h : p.run c.events = .ok q) :
    p.Reaches q (some ⟨inner, lastRow flag c⟩) (declarations inRow flag c) := by
  induction c generalizing p q inner flag inRow with
  | nil =>
    cases h
    exact .refl hp
  | event e plain rest ih =>
    obtain ⟨m, hstep, hrun⟩ := run_cons_eq_ok h
    have hm := step_plain_reaches plain hstep
    exact hm.trans (ih inRow (hm.schema.trans hp) hrun)
  | empty tag rest ih =>
    obtain ⟨m, hstep, hrun⟩ := run_cons_eq_ok h
    have hm := onEmpty_reaches inRow hp hstep
    exact hm.trans (ih inRow hm.schema hrun)
  | element tag inner' rest ihinner ihrest =>
    obtain ⟨m, m', hstart, hinner, hrest⟩ := run_element_eq_ok h
    have hm := onStart_reaches inRow hp hstart
    have hm' := ihinner (rowTypeAfter tag inRow) hm.schema hinner
    -- the end tag leaves the element, but not the type that began last in it
    have hm'' : m'.Reaches m'.onClose (some ⟨inner, lastRow (rowTypeAfter tag flag) inner'⟩) [] :=
      .of_eq (by simp [onClose, hm'.schema]) (by simp [onClose, hm'.schema])
    have hall := ((hm.trans hm').trans hm'').trans (ihrest inRow hm''.schema hrest)
    rw [List.append_nil] at hall
    exact hall

/-! ### Reading outside schemas -/

theorem onStart_outside (hp : p.schema = none) (hname : tag.localName ≠ "schema")
    (h : p.onStart tag = .ok q) : p.Reaches q none [] := by
  simp only [onStart, hp, hname, if_false] at h
  cases hplace : p.place with
  | cell cells name text nested =>
    rw [hplace] at h
    cases h
    exact .of_eq rfl rfl
  | row cells =>
    rw [hplace] at h
    cases h
    exact .of_eq rfl rfl
  | outside =>
    rw [hplace] at h
    dsimp only at h
    split at h
    · cases h
      exact .of_eq rfl rfl
    · split at h
      · cases h
        exact .of_eq rfl rfl
      · cases h
        exact .refl hp

theorem onEmpty_outside (hp : p.schema = none) (h : p.onEmpty tag = .ok q) :
    p.Reaches q none [] := by
  simp only [onEmpty, hp] at h
  cases hplace : p.place with
  | cell cells name text nested =>
    rw [hplace] at h
    dsimp only at h
    split at h
    · cases h
      exact .of_eq rfl rfl
    · cases h
      exact .refl hp
  | row cells =>
    rw [hplace] at h
    cases h
    exact .of_eq ((note_schema p _).trans hp) (note_declared p _)
  | outside =>
    rw [hplace] at h
    dsimp only at h
    split at h
    · cases h
      exact .of_eq rfl rfl
    · split at h
      · cases h
        exact .of_eq rfl rfl
      · cases h
        exact .refl hp

theorem onClose_outside (hp : p.schema = none) : p.Reaches p.onClose none [] := by
  unfold onClose
  rw [hp]
  cases p.place with
  | cell cells name text nested =>
    cases nested with
    | zero => exact .of_eq ((note_schema p _).trans hp) (note_declared p _)
    | succ nested => exact .of_eq rfl rfl
  | row cells => exact .of_eq rfl rfl
  | outside => exact .refl hp

/-- The columns that reading a content declares are those of its schemas. -/
theorem run_content (c : Content) (hp : p.schema = none) (h : p.run c.events = .ok q) :
    p.Reaches q none ((schemas c).flatMap schemaDeclarations) := by
  induction c generalizing p q with
  | nil =>
    cases h
    exact .refl hp
  | event e plain rest ih =>
    obtain ⟨m, hstep, hrun⟩ := run_cons_eq_ok h
    have hm := step_plain_reaches plain hstep
    exact hm.trans (ih (hm.schema.trans hp) hrun)
  | empty tag rest ih =>
    obtain ⟨m, hstep, hrun⟩ := run_cons_eq_ok h
    have hm := onEmpty_outside hp hstep
    have hall := hm.trans (ih hm.schema hrun)
    -- a schema without content declares nothing
    by_cases hname : tag.localName = "schema" <;>
      simpa [schemas, hname, schemaDeclarations, declarations] using hall
  | element tag inner rest ihinner ihrest =>
    obtain ⟨m, m', hstart, hinner, hrest⟩ := run_element_eq_ok h
    by_cases hname : tag.localName = "schema"
    · have hm : p.Reaches m (some ⟨0, false⟩) [] := by
        simp only [onStart, hp, hname, if_true] at hstart
        cases hstart
        exact .of_eq rfl rfl
      have hm' := run_schema false inner hm.schema hinner
      have hm'' : m'.Reaches m'.onClose none [] :=
        .of_eq (by simp [onClose, hm'.schema]) (by simp [onClose, hm'.schema])
      have hall := ((hm.trans hm').trans hm'').trans (ihrest hm''.schema hrest)
      simpa [schemas, hname, schemaDeclarations] using hall
    · have hm := onStart_outside hp hname hstart
      have hm' := ihinner hm.schema hinner
      have hm'' := onClose_outside hm'.schema
      have hall := ((hm.trans hm').trans hm'').trans (ihrest hm''.schema hrest)
      simpa [schemas, hname] using hall

theorem run_asides_reaches {asides : List Event} (ha : ∀ e ∈ asides, isAside e = true)
    (hp : p.schema = none) (h : p.run asides = .ok q) : p.Reaches q none [] := by
  induction asides generalizing p with
  | nil =>
    cases h
    exact .refl hp
  | cons e asides ih =>
    obtain ⟨m, hstep, hrun⟩ := run_cons_eq_ok h
    have hplain := isPlain_of_isAside (ha e List.mem_cons_self)
    have hm := step_plain_reaches hplain hstep
    exact hm.trans (ih (fun e' he' => ha e' (List.mem_cons_of_mem e he')) (hm.schema.trans hp) hrun)

/-- The columns that reading a document declares are those of its schemas. -/
theorem run_document {d : Document} (h : run {} d.events = .ok q) :
    Reaches {} q none ((schemas d.content).flatMap schemaDeclarations) := by
  obtain ⟨m₁, hbefore, h₁⟩ := run_append_eq_ok h
  obtain ⟨m₂, m₃, hroot, hcontent, hafter⟩ := run_element_eq_ok h₁
  have hname : d.root.localName ≠ "schema" := by
    intro heq
    have := d.root_named
    rw [heq] at this
    exact absurd this (by decide)
  have hm₁ := run_asides_reaches d.before_aside rfl hbefore
  have hm₂ := onStart_outside hm₁.schema hname hroot
  have hm₃ := run_content d.content hm₂.schema hcontent
  have hm₄ := onClose_outside hm₃.schema
  have hall := (((hm₁.trans hm₂).trans hm₃).trans hm₄).trans
    (run_asides_reaches d.after_aside hm₄.schema hafter)
  simpa using hall

end Progress

/-! ### Decoded tables -/

/-- A table has the columns that were read, and their cells of each row that was. -/
theorem Progress.table_eq_ok {p : Progress} {t : Table} (h : p.table = .ok t) :
    ∃ rows, p.rows.reverse.mapM (cellsOf p.columns) = .ok rows ∧
      t = Table.ofRows (p.columns.map (·.label)) rows := by
  unfold Progress.table at h
  split at h
  · cases h
  · split at h
    · cases h
    · rename_i rows hrows
      cases h
      exact ⟨rows, hrows, rfl⟩

/-- A decoded table is made of what was read. -/
theorem decode_eq_ok {body : Bytes} {t : Table} (h : decode body = .ok t) :
    ∃ p, Progress.run {} (Markup.read body).events = .ok p ∧ p.table = .ok t := by
  unfold decode at h
  split at h
  · cases h
  · dsimp only at h
    split at h
    · cases h
    · rename_i p hrun
      split at h
      · cases h
      · exact ⟨p, hrun, h⟩

/-- Where a schema declares a column after the type of the rows, these columns are the table's. -/
theorem columns_of_declared {body : Bytes} {d : Document} {schema : Content} {t : Table}
    (hbody : d.Describes body) (hschema : schemas d.content = [schema])
    (hdecode : decode body = .ok t)
    (hsome : ∃ x ∈ schemaDeclarations schema, x.afterRow = true) :
    t.columns.map some =
      ((schemaDeclarations schema).filter (·.afterRow)).map Declaration.label? := by
  obtain ⟨p, hrun, htable⟩ := decode_eq_ok hdecode
  have hcolumns : t.columns = p.columns.map (·.label) := by
    obtain ⟨rows, -, rfl⟩ := Progress.table_eq_ok htable
    rfl
  rw [hbody] at hrun
  obtain ⟨-, columns, hdeclared, hmap⟩ := Progress.run_document hrun
  rw [hschema, List.flatMap_singleton] at hmap
  -- a declaration is a column, so the columns are those declared
  have hne : p.declared ≠ [] := by
    rintro hnil
    rw [hdeclared] at hnil
    obtain ⟨x, hx, hafter⟩ := hsome
    have hmem : x ∈ (schemaDeclarations schema).filter (·.afterRow) :=
      List.mem_filter.2 ⟨hx, hafter⟩
    have hcolumn := List.mem_map_of_mem (f := (Column.ofDeclaration ·.tag)) hmem
    rw [← hmap, List.append_eq_nil_iff.1 hnil |>.2] at hcolumn
    cases hcolumn
  have hp : p.columns = columns := by
    unfold Progress.columns
    rw [if_neg hne, hdeclared]
    rfl
  have hlabels := congrArg (List.map (Option.map Column.label)) hmap
  rw [List.map_map, List.map_map] at hlabels
  rw [hcolumns, hp, List.map_map]
  exact hlabels

/-- **The columns of a schema.** In a response with one schema, the columns are the declarations
before which the type of the rows began last, in document order, if there are any. These are the
declarations that the type of the rows is the nearest one around, provided that the type that began
last before a declaration is that of the rows exactly if the nearest one around it is. -/
theorem columns_of_row_type {body : Bytes} {d : Document} {schema : Content} {t : Table}
    (hbody : d.Describes body) (hschema : schemas d.content = [schema])
    (hdecode : decode body = .ok t) :
    ((∃ x ∈ schemaDeclarations schema, x.afterRow = true) →
      t.columns.map some =
        ((schemaDeclarations schema).filter (·.afterRow)).map Declaration.label?) ∧
    ((∃ x ∈ schemaDeclarations schema, x.inRow = true) →
      (∀ x ∈ schemaDeclarations schema, x.afterRow = x.inRow) →
      t.columns.map some =
        ((schemaDeclarations schema).filter (·.inRow)).map Declaration.label?) := by
  refine ⟨columns_of_declared hbody hschema hdecode, fun ⟨x, hx, hrow⟩ hsame => ?_⟩
  have hcolumns := columns_of_declared hbody hschema hdecode ⟨x, hx, (hsame x hx).trans hrow⟩
  rw [hcolumns, List.filter_congr hsame]

/-! ### Two schemas -/

/-- A schema that declares a type of another name before that of the rows: the declaration in that
one is no column. -/
theorem columns_of_row_type_after_other :
    let type (name declared : String) :=
      Soap.elementWith "complexType" (nameAttribute name)
        (emptyElement "element" (nameAttribute declared))
    let body := Utf8.encode (Soap.element "root"
      (Soap.element "schema" (type "uuid" "I" ++ type "row" "X") ++
        Soap.element "row" (Soap.leaf "X" "9")))
    ∃ t, decode body = .ok t ∧ t.columns = ["X"] := by
  intro type body
  let typeContent (name declared : String) (rest : Content) : Content :=
    .element (writtenTag "complexType" (nameAttribute name))
      (.empty (writtenTag "element" (nameAttribute declared)) .nil) rest
  let schema : Content := typeContent "uuid" "I" (typeContent "row" "X" .nil)
  let cell : Content := .element (writtenTag "X" "")
    (.event (.text (Utf8.encode (escape "9".toList))) rfl .nil) .nil
  let d : Document := ⟨[], writtenTag "root" "", .element (writtenTag "schema" "") schema
    (.element (writtenTag "row" "") cell .nil), [], by simp, by decide +kernel, by simp⟩
  have htype (name declared : String) : Reads (type name declared)
      (elementEvents "complexType" (nameAttribute name)
        [.empty (writtenTag "element" (nameAttribute declared))]) :=
    .elementWith (by decide) (attributeBytes_nameAttribute name)
      (reads_emptyElement (by decide) (attributeBytes_nameAttribute declared))
  have hread : Markup.read body = ⟨d.events, none⟩ :=
    read_of_reads (.element (by decide) (.append
      (.element (by decide) ((htype "uuid" "I").append (htype "row" "X")))
      (.element (by decide) (reads_leaf (by decide) (by decide)))))
  have hschema : schemas d.content = [schema] := by decide +kernel
  have hrow : ∃ x ∈ schemaDeclarations schema, x.inRow = true := by decide +kernel
  have hsame : ∀ x ∈ schemaDeclarations schema, x.afterRow = x.inRow := by decide +kernel
  have hlabels : ((schemaDeclarations schema).filter (·.inRow)).map Declaration.label? =
      [some "X"] := by
    decide +kernel
  have hdecoded : (decode body).toOption.isSome = true := by
    unfold decode Soap.fault?
    rw [hread]
    decide +kernel
  obtain ⟨t, ht⟩ := Option.isSome_iff_exists.1 hdecoded
  have hdecode := Except.toOption_eq_some ht
  have hcolumns := (columns_of_row_type hread hschema hdecode).2 hrow hsame
  rw [hlabels, show [some "X"] = ["X"].map some from rfl] at hcolumns
  exact ⟨t, hdecode, (List.map_inj_right fun _ _ => Option.some.inj).1 hcolumns⟩

/-- A column after one whose type stands inside its declaration is lost, though the type of the rows
is the nearest one around it. -/
theorem columns_lost_after_nested_type :
    let body := Utf8.encode (Soap.element "root" (Soap.element "schema"
      (Soap.elementWith "complexType" (nameAttribute "row")
        (Soap.elementWith "element" (nameAttribute "A") (Soap.element "complexType" []) ++
          emptyElement "element" (nameAttribute "B")))))
    ∃ (d : Document) (schema : Content) (t : Table), d.Describes body ∧
      schemas d.content = [schema] ∧
      ((schemaDeclarations schema).filter (·.inRow)).map Declaration.label? = [some "A", some "B"] ∧
      decode body = .ok t ∧ t.columns = ["A"] := by
  intro body
  let schema : Content := .element (writtenTag "complexType" (nameAttribute "row"))
    (.element (writtenTag "element" (nameAttribute "A"))
      (.element (writtenTag "complexType" "") .nil .nil)
      (.empty (writtenTag "element" (nameAttribute "B")) .nil)) .nil
  let d : Document := ⟨[], writtenTag "root" "", .element (writtenTag "schema" "") schema .nil, [],
    by simp, by decide +kernel, by simp⟩
  have hread : Markup.read body = ⟨d.events, none⟩ :=
    read_of_reads (.element (by decide) (.element (by decide)
      (.elementWith (by decide) (attributeBytes_nameAttribute "row") (.append
        (.elementWith (by decide) (attributeBytes_nameAttribute "A")
          (.element (by decide) reads_nil))
        (reads_emptyElement (by decide) (attributeBytes_nameAttribute "B"))))))
  have hcolumns : (decode body).toOption.map (·.columns) = some ["A"] := by
    unfold decode Soap.fault?
    rw [hread]
    decide +kernel
  obtain ⟨t, ht, hlost⟩ := Option.map_eq_some_iff.1 hcolumns
  refine ⟨d, schema, t, hread, ?_, ?_, Except.toOption_eq_some ht, hlost⟩
  · decide +kernel
  · decide +kernel

end OlapClient.Rowset
