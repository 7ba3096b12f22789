import BusReplay.Proofs.Toml.Options

/-!
# Loading configured options

What is written between double quotes in the array of options is loaded as it is, in its order, and
nothing else is. A document that has no such array configures nothing. One key is reserved for
dates: a table in which it comes first has no entries, and a document in which such a table spells
no date is refused.
-/

namespace BusReplay

namespace Toml

/-- The texts among the items of an array, in their order. -/
inductive Mixes : List String → List Value → Prop
  | nil : Mixes [] []
  | text {x : String} {xs : List String} {items : List Value} (h : Mixes xs items) :
    Mixes (x :: xs) (.string x :: items)
  | other {v : Value} {xs : List String} {items : List Value} (hv : v.text? = none)
    (h : Mixes xs items) : Mixes xs (v :: items)

theorem Mixes.filterMap_text? {xs : List String} {items : List Value} (h : Mixes xs items) :
    items.filterMap Value.text? = xs := by
  induction h with
  | nil => rfl
  | @text x _ _ _ ih => rw [List.filterMap_cons, Value.text?, ih]
  | other hv _ ih => rw [List.filterMap_cons, hv, ih]

theorem Mixes.of_texts (xs : List String) : Mixes xs (xs.map .string) := by
  induction xs with
  | nil => exact .nil
  | cons x xs ih => exact .text ih

/-! ## A document for every list of options -/

/-- Texts between double quotes, with a comma behind each. -/
def writtenItems (xs : List String) : List Char :=
  xs.flatMap fun x ↦ '"' :: (spell x.toList ++ ['"', ','])

/-- A document that configures options. -/
def written (xs : List String) : String :=
  .ofList ("[defaults]\noptions = [".toList ++ (writtenItems xs ++ "]\n".toList))

theorem members_writtenItems (depth : Nat) (xs : List String) (rest : List Char) :
    Members ']' (WritesItem depth) (xs.map .string) (writtenItems xs ++ ']' :: rest) rest := by
  induction xs with
  | nil => exact .close rfl
  | cons x xs ih =>
    have hitem : writtenItems (x :: xs) ++ ']' :: rest =
        '"' :: (spell x.toList ++ '"' :: (',' :: (writtenItems xs ++ ']' :: rest))) := by
      simp [writtenItems]
    rw [hitem]
    exact .more rfl (by simp) (.text (spells_spell _)) rfl ih

theorem toList_written (xs : List String) :
    (written xs).toList = "[defaults]\noptions = [".toList ++ (writtenItems xs ++ "]\n".toList) :=
  String.toList_ofList

theorem assigns_written (xs : List String) :
    Assigns ["options"] ("options = [".toList ++ (writtenItems xs ++ "]\n".toList))
      ('[' :: (writtenItems xs ++ "]\n".toList)) :=
  ⟨_, _, rfl, rfl, rfl⟩

theorem writesArray_written (xs : List String) :
    WritesArray maxDepth (xs.map .string) ('[' :: (writtenItems xs ++ "]\n".toList)) ['\n'] :=
  .intro (members_writtenItems _ xs ['\n'])

theorem writesOptions_written (xs : List String) : WritesOptions (xs.map .string) (written xs) := by
  have hbefore : Lines [.table ["defaults"]] (dropMark (written xs).toList)
      ("options = [".toList ++ (writtenItems xs ++ "]\n".toList)) := by
    rw [toList_written]
    exact .cons rfl rfl rfl (.nil _)
  have hoptions : AssignsOptions (xs.map .string) ([] ++ .table ["defaults"] :: []) _ _ ['\n'] :=
    .inTable (by simp) (assigns_written xs) (writesArray_written xs)
  exact .intro hbefore rfl hoptions rfl (.nil []) rfl rfl

theorem document?_written (xs : List String) : document? (written xs) =
    some (.table [("defaults", .table [("options", .array (xs.map .string))])]) := by
  have hlines : Lines [.table ["defaults"], .assign ["options"] (.array (xs.map .string))]
      (dropMark (written xs).toList) [] := by
    rw [toList_written]
    exact .cons rfl rfl rfl (.cons rfl
      (statement_of_assigns (assigns_written xs) (.of_writesArray (writesArray_written xs))) rfl
      (.nil _))
  rw [document?, statements_of_lines hlines rfl]
  rfl

theorem not_hasDateKey_written (xs : List String) :
    ¬ (Value.table [("defaults", .table [("options", .array (xs.map .string))])]).HasDateKey := by
  simp [lookup_cons_eq_ite, dateKey]

end Toml

namespace Config

open Toml (Value)

/-- The reserved key hides the array of options. -/
def HidesOptions (tree : Value) : Prop :=
  tree.StandsForDate ∨ ∃ defaults, tree.get? "defaults" = some defaults ∧ defaults.StandsForDate

variable {text : String} {tree document : Value}

theorem HidesOptions.hasDateKey (h : HidesOptions tree) : tree.HasDateKey := by
  rcases h with hroot | ⟨defaults, hget, hdate⟩
  · exact hroot.hasDateKey
  · cases tree with
    | table entries =>
      obtain ⟨before, after, rfl, -⟩ := List.lookup_eq_some_iff.1 hget
      exact .entry (List.mem_append_cons_self) hdate.hasDateKey
    | _ => cases hget

def optionItems? (document : Value) : Option (List Value) :=
  ((document.get? "defaults").bind (·.get? "options")).bind (·.items?)

theorem optionsOf_eq (document : Value) :
    optionsOf document = ((optionItems? document).map (·.filterMap Value.text?)).getD [] := by
  unfold optionsOf optionItems?
  split
  · next items hitems => simp [hitems]
  · next hnone => simp [hnone]

theorem optionItems?_eq_some_iff {items : List Value} :
    optionItems? document = some items ↔
      document.at? ["defaults", "options"] = some (.array items) := by
  have hitems (v : Value) : v.items? = some items ↔ v = .array items := by
    cases v <;> simp [Value.items?]
  simp [optionItems?, Value.at?, Option.bind_eq_some_iff, hitems]

/-- The options are the texts in the array of options. -/
theorem optionsOf_of_at? {items : List Value}
    (h : tree.at? ["defaults", "options"] = some (.array items)) :
    optionsOf tree = items.filterMap Value.text? := by
  rw [optionsOf_eq, optionItems?_eq_some_iff.2 h]
  rfl

theorem optionsOf_of_forall_ne
    (h : ∀ items, tree.at? ["defaults", "options"] ≠ some (.array items)) :
    optionsOf tree = [] := by
  have hnone : optionItems? tree = none :=
    Option.eq_none_iff_forall_ne_some.2 fun items hitems ↦
      h items (optionItems?_eq_some_iff.1 hitems)
  rw [optionsOf_eq, hnone]
  rfl

/-- Tables that stand for dates elsewhere change nothing in what is configured. -/
theorem optionsOf_of_withDates (h : tree.withDates = some document)
    (hhidden : ¬ HidesOptions tree) : optionsOf document = optionsOf tree := by
  simp only [HidesOptions, not_or, not_exists, not_and] at hhidden
  obtain ⟨hroot, hdefaults⟩ := hhidden
  -- Neither table on the way to the array is a date, so each step finds what it found before.
  have hitems : Option.Rel (fun items others ↦ Toml.itemsWithDates items = some others)
      (optionItems? tree) (optionItems? document) :=
    Toml.rel_bind
      (Toml.rel_bind (Value.get?_of_withDates h hroot "defaults") fun d _ hd hnew ↦
        Value.get?_of_withDates hnew (hdefaults d hd) "options")
      fun _ _ _ hnew ↦ Value.items?_of_withDates hnew
  rw [optionsOf_eq, optionsOf_eq]
  generalize optionItems? tree = items, optionItems? document = others at hitems
  cases hitems with
  | none => rfl
  | some hitems => exact Toml.filterMap_text?_of_itemsWithDates hitems

/-- Options that the reserved key hides are not seen. -/
theorem optionsOf_of_hidesOptions (h : tree.withDates = some document)
    (hhidden : HidesOptions tree) : optionsOf document = [] := by
  rw [optionsOf_eq, optionItems?]
  rcases Classical.em tree.StandsForDate with hroot | hroot
  · rw [Value.get?_of_standsForDate h hroot]
    rfl
  · obtain ⟨d, hd, hdate⟩ := hhidden.resolve_left hroot
    have hget := Value.get?_of_withDates h hroot "defaults"
    rw [hd] at hget
    generalize document.get? "defaults" = new at *
    cases hget with
    | some hnew =>
      rw [Option.bind_some, Value.get?_of_standsForDate hnew hdate]
      rfl

/-! ## What is loaded -/

variable {files : FileSystem} {directory : String}

theorem load_of_readText (hpresent : files.present (fileIn directory) = true)
    (hread : files.readText (fileIn directory) = .ok text) : load files directory = parse text := by
  rw [load, if_pos hpresent, hread]

theorem parse_of_hasBrokenDate (h : Toml.document? text = some tree)
    (hbroken : tree.HasBrokenDate) : parse text = .error (.config "Invalid config TOML") := by
  rw [parse, Toml.parse_eq_document?_bind, h, Option.bind_some,
    (Toml.withDates_eq_none_iff tree).2 hbroken]

/-- What a document without broken dates configures. -/
theorem parse_of_document? (h : Toml.document? text = some tree) (hbroken : ¬ tree.HasBrokenDate) :
    (HidesOptions tree → parse text = .ok ⟨[]⟩) ∧
      (¬ HidesOptions tree → parse text = .ok ⟨optionsOf tree⟩) := by
  obtain ⟨document, hdocument⟩ :=
    Option.ne_none_iff_exists'.1 (mt (Toml.withDates_eq_none_iff tree).1 hbroken)
  have hparse : parse text = .ok ⟨optionsOf document⟩ := by
    rw [parse, Toml.parse_eq_document?_bind, h, Option.bind_some, hdocument]
  refine ⟨fun hhidden ↦ ?_, fun hhidden ↦ ?_⟩
  · rw [hparse, optionsOf_of_hidesOptions hdocument hhidden]
  · rw [hparse, optionsOf_of_withDates hdocument hhidden]

/-- The texts between double quotes are loaded in their order, unless the reserved key stands in the
way; however else the array came about, the texts in it are; without an array of options nothing is;
and for all texts there is a configuration. -/
theorem load_of_document (hpresent : files.present (fileIn directory) = true)
    (hread : files.readText (fileIn directory) = .ok text) :
    (∀ xs items, Toml.WritesOptions items text → Toml.Mixes xs items →
      ∃ tree, Toml.document? text = some tree ∧
        (¬ tree.HasBrokenDate → ¬ HidesOptions tree → load files directory = .ok ⟨xs⟩)) ∧
    (∀ tree, Toml.document? text = some tree →
      (¬ tree.HasBrokenDate → ¬ HidesOptions tree →
        ∀ xs items, tree.at? ["defaults", "options"] = some (.array items) → Toml.Mixes xs items →
          load files directory = .ok ⟨xs⟩) ∧
      (¬ tree.HasBrokenDate →
        (∀ items, tree.at? ["defaults", "options"] ≠ some (.array items)) →
          load files directory = .ok ⟨[]⟩) ∧
      (¬ tree.HasBrokenDate → HidesOptions tree → load files directory = .ok ⟨[]⟩) ∧
      (tree.HasBrokenDate → load files directory = .error (.config "Invalid config TOML"))) ∧
    ∀ xs, text = Toml.written xs →
      Toml.WritesOptions (xs.map .string) text ∧ load files directory = .ok ⟨xs⟩ := by
  rw [load_of_readText hpresent hread]
  have hmixed {tree : Value} (htree : Toml.document? text = some tree)
      (hbroken : ¬ tree.HasBrokenDate) (hhidden : ¬ HidesOptions tree) {xs : List String}
      {items : List Value} (hitems : tree.at? ["defaults", "options"] = some (.array items))
      (hmixes : Toml.Mixes xs items) : parse text = .ok ⟨xs⟩ := by
    rw [(parse_of_document? htree hbroken).2 hhidden, optionsOf_of_at? hitems,
      hmixes.filterMap_text?]
  refine ⟨fun xs items hwrites hmixes ↦ ?_,
    fun tree htree ↦ ⟨?_, fun hbroken hnone ↦ ?_, ?_, ?_⟩, ?_⟩
  · obtain ⟨tree, htree, hitems⟩ := Toml.document?_of_writesOptions hwrites
    exact ⟨tree, htree, fun hbroken hhidden ↦ hmixed htree hbroken hhidden hitems hmixes⟩
  · exact fun hbroken hhidden xs items ↦ hmixed htree hbroken hhidden
  · rcases Classical.em (HidesOptions tree) with hhidden | hhidden
    · exact (parse_of_document? htree hbroken).1 hhidden
    · rw [(parse_of_document? htree hbroken).2 hhidden, optionsOf_of_forall_ne hnone]
  · exact fun hbroken ↦ (parse_of_document? htree hbroken).1
  · exact parse_of_hasBrokenDate htree
  · rintro xs rfl
    have hkeys := Toml.not_hasDateKey_written xs
    exact ⟨Toml.writesOptions_written xs, hmixed (Toml.document?_written xs) (hkeys ·.hasDateKey)
      (hkeys ·.hasDateKey) rfl (.of_texts xs)⟩

/-- Escapes, an empty text and a number between the texts, behind a quoted header and in front of
another table. -/
theorem load_of_document_mixed :
    ∃ (files : FileSystem) (text : String),
      text = "[\"defaults\"] # all\noptions = " ++ "[ \"\\u0041\\\"\", 7, # seven\n\"\" ]" ++
        "\n[[list]]\nx.y = 2\n" ∧
      files.present (fileIn "cfg") = true ∧ files.readText (fileIn "cfg") = .ok text ∧
      Toml.WritesOptions [.string "A\"", .integer 7, .string ""] text ∧
      load files "cfg" = .ok ⟨["A\"", ""]⟩ := by
  let array : String := "[ \"\\u0041\\\"\", 7, # seven\n\"\" ]"
  let last : String := "\n[[list]]\nx.y = 2\n"
  let text : String := "[\"defaults\"] # all\noptions = " ++ array ++ last
  let files : FileSystem := ⟨fun path ↦ path = "cfg/config.toml", fun _ ↦
    .ok (.ofBytes text.toUTF8.toList)⟩
  let items : List Value := [.string "A\"", .integer 7, .string ""]
  have hpresent : files.present (fileIn "cfg") = true := by decide +kernel
  have hread : files.readText (fileIn "cfg") = .ok text := by decide +kernel
  have hquote : Toml.Spells "A\"".toList ['\\', 'u', '0', '0', '4', '1', '\\', '"'] :=
    .cons (@Toml.SpellsChar.code _ 'u' ['0', '0', '4', '1'] [0, 0, 4, 1] (by decide) rfl rfl)
      (.cons (.letter (by decide)) .nil)
  have hempty : Toml.Spells "".toList [] := .nil
  have harray : Toml.WritesArray Toml.maxDepth items (array.toList ++ last.toList) last.toList := by
    simp only [array, last, String.reduceToList, List.cons_append, List.nil_append]
    refine .intro (.more rfl ?_ (.text hquote) rfl ?_)
    · simp
    refine .more rfl ?_ (.other rfl rfl) rfl ?_
    · simp
    refine .last rfl ?_ (.text hempty) rfl
    · simp
  have hkey : Toml.Assigns ["options"] ("options = ".toList ++ (array.toList ++ last.toList))
      (array.toList ++ last.toList) := by
    simp only [array, last, String.reduceToList, List.cons_append, List.nil_append]
    exact ⟨_, _, rfl, rfl, rfl⟩
  have hoptions : Toml.AssignsOptions items ([] ++ .table ["defaults"] :: []) _ _ last.toList :=
    .inTable (by simp) hkey harray
  have hbefore : Toml.Lines [.table ["defaults"]] (Toml.dropMark text.toList)
      ("options = ".toList ++ (array.toList ++ last.toList)) := by
    simp only [text, array, last, String.toList_append, String.reduceToList, List.cons_append,
      List.nil_append]
    exact .cons rfl rfl rfl (.nil _)
  have hend : Toml.skipLineEnd false last.toList = some last.toList.tail := by
    simp only [last, String.reduceToList]
    rfl
  have hafter :
      Toml.Lines [.item ["list"], .assign ["x", "y"] (.integer 2)] last.toList.tail [] := by
    simp only [last, String.reduceToList]
    exact .cons rfl rfl rfl (.cons rfl rfl rfl (.nil _))
  have hwrites : Toml.WritesOptions items text := .intro hbefore rfl hoptions hend hafter rfl rfl
  have hmixes : Toml.Mixes ["A\"", ""] items := .text (.other rfl (.text .nil))
  obtain ⟨tree, htree, hload⟩ := (load_of_document hpresent hread).1 _ _ hwrites hmixes
  have hdocument : Toml.document? text = some (.table [
      ("defaults", .table [("options", .array items)]),
      ("list", .array [.table [("x", .table [("y", .integer 2)])]])]) := by
    rw [Toml.document?, Toml.statements_of_lines (hbefore.append
      (.cons rfl (Toml.statement_of_assignsOptions hoptions) hend hafter)) rfl]
    rfl
  obtain rfl := Option.some.inj (htree.symm.trans hdocument)
  have hkeys : ¬ (Value.table [("defaults", .table [("options", .array items)]),
      ("list", .array [.table [("x", .table [("y", .integer 2)])]])]).HasDateKey := by
    simp [items, Toml.lookup_cons_eq_ite, Toml.dateKey]
  exact ⟨files, text, rfl, hpresent, hread, hwrites,
    hload (hkeys ·.hasDateKey) (hkeys ·.hasDateKey)⟩

/-- The reserved key in the table of defaults, with a date behind it, and the reserved key outside
of all tables, with something else. -/
theorem not_forall_load_eq :
    ¬ (∀ (files : FileSystem) (directory text : String) (xs : List String) (items : List Value),
      files.present (fileIn directory) = true → files.readText (fileIn directory) = .ok text →
      Toml.WritesOptions items text → Toml.Mixes xs items → load files directory = .ok ⟨xs⟩) ∧
    ¬ (∀ (files : FileSystem) (directory text : String) (tree : Value),
      files.present (fileIn directory) = true → files.readText (fileIn directory) = .ok text →
      Toml.document? text = some tree →
      (∀ items, tree.at? ["defaults", "options"] ≠ some (.array items)) →
      load files directory = .ok ⟨[]⟩) := by
  refine ⟨fun h ↦ ?_, fun h ↦ ?_⟩
  · let array : String := "[\"k\"]\n"
    let text : String :=
      "[defaults]\n\"$__toml_private_datetime\" = \"1979-05-27\"\noptions = " ++ array
    let files : FileSystem := ⟨fun _ ↦ true, fun _ ↦ .ok (.ofBytes text.toUTF8.toList)⟩
    have hread : files.readText (fileIn "cfg") = .ok text := by decide +kernel
    have hload : load files "cfg" = .ok ⟨[]⟩ := by decide +kernel
    have hbefore : Toml.Lines
        [.table ["defaults"], .assign ["$__toml_private_datetime"] (.string "1979-05-27")]
        (Toml.dropMark text.toList) ("options = ".toList ++ array.toList) := by
      simp only [text, array, String.toList_append, String.reduceToList, List.cons_append,
        List.nil_append]
      exact .cons rfl rfl rfl (.cons rfl rfl rfl (.nil _))
    have hkey : Toml.Assigns ["options"] ("options = ".toList ++ array.toList) array.toList := by
      simp only [array, String.reduceToList, List.cons_append, List.nil_append]
      exact ⟨_, _, rfl, rfl, rfl⟩
    have hk : Toml.Spells "k".toList ['k'] :=
      .cons (.plain (by decide) (by decide) (by decide)) .nil
    have harray : Toml.WritesArray Toml.maxDepth [.string "k"] array.toList ['\n'] := by
      simp only [array, String.reduceToList]
      refine .intro (.last rfl ?_ (.text hk) rfl)
      simp
    have hoptions : Toml.AssignsOptions [.string "k"] ([] ++ .table ["defaults"] ::
        [.assign ["$__toml_private_datetime"] (.string "1979-05-27")]) _ _ ['\n'] :=
      .inTable (by simp [Toml.Statement.IsAssign]) hkey harray
    have hwrites : Toml.WritesOptions [.string "k"] text :=
      .intro hbefore rfl hoptions rfl (.nil []) rfl rfl
    have hclaim := h files "cfg" text ["k"] _ rfl hread hwrites (.text .nil)
    simp [hload] at hclaim
  · let text : String := "\"$__toml_private_datetime\" = 1\n"
    let files : FileSystem := ⟨fun _ ↦ true, fun _ ↦ .ok (.ofBytes text.toUTF8.toList)⟩
    have hread : files.readText (fileIn "cfg") = .ok text := by decide +kernel
    have hload : load files "cfg" = .error (.config "Invalid config TOML") := by decide +kernel
    have hlines : Toml.Lines [.assign ["$__toml_private_datetime"] (.integer 1)]
        (Toml.dropMark text.toList) [] := by
      simp only [text, String.reduceToList]
      exact .cons rfl rfl rfl (.nil _)
    have hdocument : Toml.document? text =
        some (.table [("$__toml_private_datetime", .integer 1)]) := by
      rw [Toml.document?, Toml.statements_of_lines hlines rfl]
      rfl
    have hclaim := h files "cfg" text _ rfl hread hdocument
      (by simp [Value.at?, Value.get?, Toml.lookup_cons_eq_ite])
    simp [hload] at hclaim

end Config

end BusReplay
