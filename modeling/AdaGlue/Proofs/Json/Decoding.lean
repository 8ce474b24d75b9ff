/-
Decoders against the values they are meant for: texts, choices by name, lists, and records that are
written as objects with the fields of the record, each once or, where the record can do without it,
not at all.
-/
import AdaGlue.Proofs.Json.Reading
import AdaGlue.Proofs.View.Consistency

namespace AdaGlue.Json

/-- The decoder takes the value for `a`. -/
def Reads {α : Type} (d : Decoder α) (j : Json) (a : α) : Prop :=
  d j.tree = .ok a

theorem treeItems_eq_map (items : List Json) : treeItems items = items.map tree := by
  induction items with
  | nil => rw [treeItems, List.map_nil]
  | cons j r ih => rw [treeItems, ih, List.map_cons]

/-! ## Basic decoders -/

namespace Reads

variable {α : Type} {d : Decoder α}

theorem string (s : String) : Reads Decoder.string (.string s) s := by
  unfold Reads
  rw [tree]
  exact decode_rawOf s

theorem bool (b : Bool) : Reads Decoder.bool (.bool b) b := by
  unfold Reads
  rw [tree]
  rfl

/-- An optional text is null or the text. -/
theorem ofOption (o : Option String) :
    Reads (Decoder.optional Decoder.string) (Json.ofOption o) o := by
  unfold Reads
  cases o with
  | none => rw [Json.ofOption, tree]; rfl
  | some s =>
    rw [Json.ofOption, tree]
    show some <$> (rawOf s).decode = .ok (some s)
    rw [decode_rawOf]
    rfl

/-- A choice is read by its name, where the names differ. -/
theorem choice {all : List α} {name : α → String} (hnames : (all.map name).Nodup) {a : α}
    (ha : a ∈ all) :
    Reads (Decoder.variant (all.map fun x => (name x, x))) (.string (name a)) a := by
  have hlookup : (all.map fun x => (name x, x)).lookup (name a) = some a := by
    induction all with
    | nil => cases ha
    | cons x all ih =>
      rw [List.map_cons, List.nodup_cons] at hnames
      rw [List.map_cons, List.lookup_cons]
      rcases List.mem_cons.1 ha with rfl | hmem
      · rw [beq_self_eq_true]
      · have hne : name a ≠ name x := fun heq => hnames.1 (heq ▸ List.mem_map_of_mem hmem)
        rw [beq_false_of_ne hne]
        exact ih hnames.2 hmem
  unfold Reads
  rw [tree]
  show (rawOf (name a)).decode >>= Decoder.lookupVariant _ = .ok a
  rw [decode_rawOf]
  show Decoder.lookupVariant _ (name a) = .ok a
  unfold Decoder.lookupVariant
  rw [hlookup]
  rfl

/-- A list is read item by item. -/
theorem list {write : α → Json} {l : List α} (h : ∀ a ∈ l, Reads d (write a) a) :
    Reads (Decoder.list d) (.array (l.map write)) l := by
  have hitems : (treeItems (l.map write)).mapM d = .ok l := by
    rw [treeItems_eq_map]
    induction l with
    | nil => rfl
    | cons a l ih =>
      have hhead : d (write a).tree = .ok a := h a List.mem_cons_self
      have htail := ih fun b hb => h b (List.mem_cons_of_mem _ hb)
      simp only [List.map_cons, List.mapM_cons, hhead, htail]
      rfl
  unfold Reads
  rw [tree]
  show ((treeItems (l.map write)).mapM d >>= fun values => _) = .ok l
  rw [hitems]
  rfl

theorem strings (l : List String) : Reads (Decoder.list Decoder.string) (.ofStrings l) l :=
  list fun s _ => string s

end Reads

/-! ## Records -/

/-- Filling these fields of a draft, in this order and with these values, leads to another. -/
inductive Fills {σ : Type} : σ → List (Field σ) → List Json → σ → Prop
  | nil {s : σ} : Fills s [] [] s
  | cons {s s' t : σ} {field : Field σ} {fields : List (Field σ)} {j : Json} {values : List Json}
      (hfree : field.filled s = false) (hfill : field.fill s j.tree = .ok s')
      (hmore : Fills s' fields values t) : Fills s (field :: fields) (j :: values) t

section Records

variable {σ α : Type}

/-- A free slot takes what its decoder reads. -/
theorem Field.slot_takes {β : Type} (name : String) (mayEnd : Bool) {get : σ → Option β}
    {set : σ → β → σ} {d : Decoder β} {s : σ} {b : β} {j : Json} (hfree : get s = none)
    (hread : Reads d j b) :
    (Field.slot name mayEnd get set d).filled s = false ∧
      (Field.slot name mayEnd get set d).fill s j.tree = .ok (set s b) := by
  constructor
  · simp [Field.slot, hfree]
  · show (set s ·) <$> d j.tree = .ok (set s b)
    rw [hread]
    rfl

theorem Fills.slot {β : Type} {name : String} {mayEnd : Bool} {get : σ → Option β}
    {set : σ → β → σ} {d : Decoder β} {s t : σ} {b : β} {j : Json} {fields : List (Field σ)}
    {values : List Json} (hfree : get s = none) (hread : Reads d j b)
    (hmore : Fills (set s b) fields values t) :
    Fills s (.slot name mayEnd get set d :: fields) (j :: values) t := by
  obtain ⟨hfilled, hfill⟩ := Field.slot_takes name mayEnd hfree hread
  exact .cons hfilled hfill hmore

variable {r : Record σ α} (hnames : (r.fields.map (·.name)).Nodup)

include hnames

/-- The members of an object fill the fields they name. -/
theorem fillMembers_of_fills {s t : σ} {fields : List (Field σ)} {values : List Json}
    (h : Fills s fields values t) (hfields : ∀ x ∈ fields, x ∈ r.fields) :
    r.fillMembers s (treeMembers ((fields.map (·.name)).zip values)) = .ok t := by
  induction h with
  | nil => rfl
  | @cons s s' t field fields j values hfree hfill _ ih =>
    -- no other field bears the name, so the lookup ends at this one
    have hfind : r.fields.find? (·.name == field.name) = some field :=
      (find?_name_eq_some_iff hnames).2 ⟨hfields field List.mem_cons_self, rfl⟩
    have hmore := ih fun x hx => hfields x (List.mem_cons_of_mem _ hx)
    rw [List.map_cons, List.zip_cons_cons, treeMembers, Record.fillMembers, decode_rawOf]
    simp only [bind, Except.bind, hfind, hfree, hfill, Bool.false_eq_true, if_false]
    exact hmore

/-- A record reads an object of its fields, where those that are left out may be. -/
theorem Record.reads {t : σ} {a : α} {j : Json} {fields : List (Field σ)} {values : List Json}
    (h : Fills r.start fields values t) (hfields : ∀ x ∈ fields, x ∈ r.fields)
    (hobject : j = .object ((fields.map (·.name)).zip values)) (hfinish : r.finish t = .ok a) :
    Reads r.decode j a := by
  unfold Reads
  rw [hobject, tree, Record.decode, fillMembers_of_fills hnames h hfields]
  exact hfinish

end Records

/-! ## Records with fields left out -/

/-- Filling fields of a draft in their order, some with a value and the others passed over, leads to
another. -/
inductive FillsSome {σ : Type} : σ → List (Field σ) → List (Option Json) → σ → Prop
  | nil {s : σ} : FillsSome s [] [] s
  | fill {s s' t : σ} {field : Field σ} {fields : List (Field σ)} {j : Json}
      {values : List (Option Json)} (hfree : field.filled s = false)
      (hfill : field.fill s j.tree = .ok s') (hmore : FillsSome s' fields values t) :
      FillsSome s (field :: fields) (some j :: values) t
  | pass {s t : σ} {field : Field σ} {fields : List (Field σ)} {values : List (Option Json)}
      (hmore : FillsSome s fields values t) : FillsSome s (field :: fields) (none :: values) t

/-- The members for the names that have a value. -/
def membersOf (names : List String) (values : List (Option Json)) : List (String × Json) :=
  (names.zip values).filterMap fun (name, value) => value.map (name, ·)

section LeftOut

variable {σ α : Type}

/-- The fields that are not passed over are filled like all fields of a smaller object. -/
theorem FillsSome.exists_fills {s t : σ} {fields : List (Field σ)} {values : List (Option Json)}
    (h : FillsSome s fields values t) :
    ∃ kept given, Fills s kept given t ∧ (∀ x ∈ kept, x ∈ fields) ∧
      (kept.map (·.name)).zip given = membersOf (fields.map (·.name)) values := by
  induction h with
  | nil => exact ⟨[], [], .nil, by simp, rfl⟩
  | @fill s s' t field fields j values hfree hfill _ ih =>
    obtain ⟨kept, given, hfills, hkept, hmembers⟩ := ih
    refine ⟨field :: kept, j :: given, .cons hfree hfill hfills, ?_, ?_⟩
    · intro x hx
      rcases List.mem_cons.1 hx with rfl | hx
      · exact List.mem_cons_self
      · exact List.mem_cons_of_mem _ (hkept x hx)
    · rw [List.map_cons, List.zip_cons_cons, hmembers]
      rfl
  | pass _ ih =>
    obtain ⟨kept, given, hfills, hkept, hmembers⟩ := ih
    exact ⟨kept, given, hfills, fun x hx => List.mem_cons_of_mem _ (hkept x hx), hmembers⟩

theorem FillsSome.slot {β : Type} {name : String} {mayEnd : Bool} {get : σ → Option β}
    {set : σ → β → σ} {d : Decoder β} {s t : σ} {b : β} {j : Json} {fields : List (Field σ)}
    {values : List (Option Json)} (hfree : get s = none) (hread : Reads d j b)
    (hmore : FillsSome (set s b) fields values t) :
    FillsSome s (.slot name mayEnd get set d :: fields) (some j :: values) t := by
  obtain ⟨hfilled, hfill⟩ := Field.slot_takes name mayEnd hfree hread
  exact .fill hfilled hfill hmore

/-- A slot for an optional text is passed over if there is none. -/
theorem FillsSome.optional {name : String} {mayEnd : Bool} {get : σ → Option (Option String)}
    {set : σ → Option String → σ} {s t : σ} {o : Option String} {fields : List (Field σ)}
    {values : List (Option Json)} (hfree : get s = none)
    (hmore : FillsSome (o.elim s fun text => set s (some text)) fields values t) :
    FillsSome s (.slot name mayEnd get set (Decoder.optional Decoder.string) :: fields)
      (o.map .string :: values) t := by
  cases o with
  | none => exact .pass hmore
  | some text => exact .slot hfree (.ofOption (some text)) hmore

/-- A record reads an object from which fields are left out, if it can do without them. -/
theorem Record.reads_of_some {r : Record σ α} (hnames : (r.fields.map (·.name)).Nodup) {t : σ}
    {a : α} {values : List (Option Json)} (h : FillsSome r.start r.fields values t)
    (hfinish : r.finish t = .ok a) :
    Reads r.decode (.object (membersOf (r.fields.map (·.name)) values)) a := by
  obtain ⟨kept, given, hfills, hkept, hmembers⟩ := h.exists_fills
  exact Record.reads hnames hfills hkept (by rw [hmembers]) hfinish

end LeftOut

/-! ## Whole texts -/

/-- Both written forms of a value decode to what it is read as. -/
theorem decodeText_of_reads {α : Type} {d : Decoder α} {j : Json} {a : α} (h : Reads d j a) :
    decodeText d (Text.bytes j.compact) = .ok a ∧ decodeText d (Text.bytes j.pretty) = .ok a := by
  unfold decodeText
  rw [Document.read_compact, Document.read_pretty]
  dsimp only
  rw [h]
  exact ⟨rfl, rfl⟩

end AdaGlue.Json
