import BusReplay.Config
import BusReplay.Proofs.Toml.Dates
import BusReplay.Proofs.Toml.Grammar
import BusReplay.Proofs.Toml.Spelling
import BusReplay.Proofs.Toml.Tree

/-!
# Configured options

The options of a configuration are the texts in one array of its document. Wherever the document has
this array, and whatever else is in it, the texts that were written between double quotes are loaded
as they are and in their order. Only the reserved key of dates stands in the way.
-/

namespace BusReplay.Toml

/-! ## The array of options in a text -/

/-- An item of an array: a text between double quotes, or a value that is no text. -/
inductive WritesItem (depth : Nat) : Value → List Char → List Char → Prop
  | text {x : String} {written rest : List Char} (h : Spells x.toList written) :
    WritesItem depth (.string x) ('"' :: (written ++ '"' :: rest)) rest
  | other {v : Value} {cs rest : List Char} (hv : v.text? = none)
    (h : Reads (value depth) v cs rest) : WritesItem depth v cs rest

inductive WritesArray : (depth : Nat) → List Value → List Char → List Char → Prop
  | intro {depth : Nat} {items : List Value} {body rest : List Char}
    (h : Members ']' (WritesItem depth) items body rest) :
    WritesArray (depth + 1) items ('[' :: body) rest

/-- A pair of an inline table: the array of options, or the value of another key. -/
inductive WritesPair (depth : Nat) (items : List Value) :
    List String × Value → List Char → List Char → Prop
  | options {cs behind more start rest : List Char} (hkey : key cs = some (["options"], behind))
    (hequals : skipTrivia false behind = some ('=' :: more))
    (hstart : skipTrivia false more = some start) (harray : WritesArray depth items start rest) :
    WritesPair depth items (["options"], .array items) cs rest
  | other {pair : List String × Value} {cs rest : List Char} (hpair : pair.1 ≠ ["options"])
    (h : Reads (inlinePair (value depth)) pair cs rest) : WritesPair depth items pair cs rest

/-- An inline table with the array of options. -/
inductive WritesTable : (depth : Nat) → List Value → Value → List Char → List Char → Prop
  | intro {depth : Nat} {items : List Value} {pairs : List (List String × Value)} {table : Value}
    {body rest : List Char} (h : Members '}' (WritesPair depth items) pairs body rest)
    (hoptions : (["options"], .array items) ∈ pairs) (htable : inlineTable pairs = some table) :
    WritesTable (depth + 1) items table ('{' :: body) rest

/-- Where a document gives the table of defaults its array of options: by a key under the header of
the table, by a dotted key that stands under no header, or in an inline table. -/
inductive AssignsOptions (items : List Value) :
    List Statement → Statement → List Char → List Char → Prop
  | inTable {earlier assigns : List Statement} {first start rest : List Char}
    (hassigns : ∀ s ∈ assigns, s.IsAssign) (hkey : Assigns ["options"] first start)
    (harray : WritesArray maxDepth items start rest) :
    AssignsOptions items (earlier ++ .table ["defaults"] :: assigns)
      (.assign ["options"] (.array items)) first rest
  | dotted {assigns : List Statement} {first start rest : List Char}
    (hassigns : ∀ s ∈ assigns, s.IsAssign) (hkey : Assigns ["defaults", "options"] first start)
    (harray : WritesArray maxDepth items start rest) :
    AssignsOptions items assigns (.assign ["defaults", "options"] (.array items)) first rest
  | inline {assigns : List Statement} {table : Value} {first start rest : List Char}
    (hassigns : ∀ s ∈ assigns, s.IsAssign) (hkey : Assigns ["defaults"] first start)
    (htable : WritesTable maxDepth items table start rest) :
    AssignsOptions items assigns (.assign ["defaults"] table) first rest

/-- A well-formed document whose table of defaults has an array of options with the given items. -/
inductive WritesOptions (items : List Value) (text : String) : Prop
  | intro {before after : List Statement} {s : Statement} {draft : Draft}
    {start first behind next finish : List Char}
    (hbefore : Lines before (dropMark text.toList) start)
    (htrivia : skipTrivia false start = some first)
    (hoptions : AssignsOptions items before s first behind)
    (hend : skipLineEnd false behind = some next) (hafter : Lines after next finish)
    (hfinish : skipTrivia false finish = some [])
    (hdraft : (before ++ s :: after).foldlM Draft.apply ⟨[], []⟩ = some draft)

/-! ## The array of options in a tree -/

variable {depth : Nat} {items : List Value} {cs rest : List Char}

/-- Behind an item stands no quote, so that an empty text is not taken for the start of a longer
one. -/
theorem Reads.of_writesItem {v : Value} {c : Char} {next : List Char}
    (h : WritesItem depth v cs rest) (hnext : skipTrivia false rest = some (c :: next))
    (hc : c = ',' ∨ c = ']') : Reads (value depth) v cs rest := by
  cases h with
  | @text x written rest h =>
    have hrest : rest.head? ≠ some '"' := by
      intro hhead
      obtain ⟨more, rfl⟩ := List.head?_eq_some_iff.1 hhead
      obtain ⟨rfl, -⟩ := List.cons.inj (Option.some.inj hnext)
      revert hc
      decide
    simp [Reads, value, flatValue, anyString_of_spells h hrest]
  | other hv h => exact h

/-- An array that is written is read. -/
theorem Reads.of_writesArray (h : WritesArray depth items cs rest) :
    Reads (value depth) (.array items) cs rest := by
  cases h with
  | intro h => exact value_of_items (h.mono fun _ _ _ _ _ ↦ .of_writesItem)

theorem Reads.of_writesPair {pair : List String × Value} (h : WritesPair depth items pair cs rest) :
    Reads (inlinePair (value depth)) pair cs rest := by
  cases h with
  | options hkey hequals hstart harray =>
    have hvalue : value depth _ = some (_, _) := Reads.of_writesArray harray
    simp [Reads, inlinePair, hkey, hequals, hstart, hvalue]
  | other hpair h => exact h

theorem Reads.of_writesTable {table : Value} (h : WritesTable depth items table cs rest) :
    Reads (value depth) table cs rest := by
  cases h with
  | intro h hoptions htable =>
    exact value_of_pairs (h.mono fun _ _ _ _ _ hpair _ _ ↦ .of_writesPair hpair) htable

theorem get?_of_writesTable {table : Value} (h : WritesTable depth items table cs rest) :
    table.get? "options" = some (.array items) := by
  cases h with
  | intro h hoptions htable => exact get?_of_inlineTable hoptions htable

/-- The statement with the options is read. -/
theorem statement_of_assignsOptions {before : List Statement} {s : Statement}
    (h : AssignsOptions items before s cs rest) : statement cs = some (s, rest) := by
  cases h with
  | inTable hassigns hkey harray => exact statement_of_assigns hkey (.of_writesArray harray)
  | dotted hassigns hkey harray => exact statement_of_assigns hkey (.of_writesArray harray)
  | inline hassigns hkey htable => exact statement_of_assigns hkey (.of_writesTable htable)

/-- The statement puts the array in its place, or a value that has it there. -/
theorem at?_of_assignsOptions {before : List Statement} {s : Statement} {draft next : Draft}
    (h : AssignsOptions items before s cs rest)
    (hbefore : before.foldlM Draft.apply ⟨[], []⟩ = some draft) (hs : draft.apply s = some next) :
    ∃ path v more, next.root.at? path = some (.value v) ∧ v.at? more = some (.array items) ∧
      path ++ more = ["defaults", "options"] := by
  cases h with
  | @inTable earlier assigns first start _ hassigns hkey harray =>
    -- The header makes the table, and the values of other keys in it leave it there.
    obtain ⟨outer, opened, -, hopened, hbefore⟩ := of_foldlM_append_cons hbefore
    obtain ⟨origin, inner, htable⟩ := Draft.at?_of_header hopened
    obtain ⟨_, htable, origin, inner, rfl⟩ := Draft.keeps_foldlM hbefore _ _ htable
    obtain ⟨_, _, _, hpath⟩ := Draft.of_apply_table hopened
    have hcurrent : draft.current = ["defaults"] :=
      (Draft.current_of_assigns hassigns hbefore).trans hpath
    exact ⟨_, _, [], Draft.at?_of_assign_inside hcurrent htable hs, rfl, rfl⟩
  | dotted hassigns hkey harray =>
    have hcurrent : draft.current = [] := Draft.current_of_assigns hassigns hbefore
    exact ⟨_, _, [], Draft.at?_of_assign_dotted hcurrent hs, rfl, rfl⟩
  | inline hassigns hkey htable =>
    have hcurrent : draft.current = [] := Draft.current_of_assigns hassigns hbefore
    refine ⟨_, _, ["options"], Draft.at?_of_assign hcurrent hs, ?_, rfl⟩
    simp [Value.at?, get?_of_writesTable htable]

/-- The tree that a document describes, with tables that stand for dates as they are written. -/
def document? (text : String) : Option Value := do
  let draft ← (← statements (dropMark text.toList)).foldlM Draft.apply ⟨[], []⟩
  return draft.root.toValue

/-- Reading a document is reading its tree and then the dates in it. -/
theorem parse_eq_document?_bind (text : String) :
    parse text = (document? text).bind Value.withDates := by
  simp only [parse, document?, Option.bind_eq_bind, Option.bind_assoc, Option.pure_def,
    Option.bind_some]
  rfl

/-- A document with an array of options has it in its tree. -/
theorem document?_of_writesOptions {text : String} (h : WritesOptions items text) :
    ∃ tree, document? text = some tree ∧
      tree.at? ["defaults", "options"] = some (.array items) := by
  obtain @⟨before, after, s, draft, start, first, behind, next, finish, hbefore, htrivia, hoptions,
    hend, hafter, hfinish, hdraft⟩ := h
  have hlines : Lines (before ++ s :: after) (dropMark text.toList) finish :=
    hbefore.append (.cons htrivia (statement_of_assignsOptions hoptions) hend hafter)
  have hdocument : document? text = some draft.root.toValue := by
    simp [document?, statements_of_lines hlines hfinish, hdraft]
  obtain ⟨earlier, put, hearlier, hput, hdraft⟩ := of_foldlM_append_cons hdraft
  obtain ⟨path, v, more, hpath, hmore, hall⟩ := at?_of_assignsOptions hoptions hearlier hput
  have hat := at?_toValue (Draft.at?_of_foldlM hpath hdraft)
  refine ⟨_, hdocument, ?_⟩
  rw [← hall, Value.at?_append, hat]
  exact hmore

end BusReplay.Toml
