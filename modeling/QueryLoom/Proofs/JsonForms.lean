import QueryLoom.Json.Decode
import Mathlib.Data.List.Forall2
import Mathlib.Data.List.Nodup

/-!
# Forms of JSON

What JSON a datum may stand as, and what it means that a decoder reads the datum back from every
such form. An object is described by slots: each is filled by a member in a form of its own, or its
member is left out, where the datum permits that.

## Implementation notes

A slot is looked up by its name, so the members of an object may stand in any order, with others
among them. Decoders spend fuel on the levels of nesting; a decoder reads a form back up to a bound
on its levels.
-/

namespace QueryLoom.Json

/-! ## Levels -/

theorem one_le_depth (json : Json) : 1 ≤ json.depth := by
  cases json <;> simp [depth]

theorem depth_le_depthMembers {members : List (String × Json)} {name : String} {json : Json}
    (h : get? members name = some json) : json.depth ≤ depthMembers members := by
  induction members with
  | nil => cases h
  | cons member rest ih =>
    obtain ⟨other, value⟩ := member
    rw [depthMembers]
    rw [get?, List.find?_cons] at h
    split at h
    · cases h
      exact Nat.le_max_left _ _
    · exact Nat.le_trans (ih h) (Nat.le_max_right _ _)

theorem depth_tagged (tag : String) (content : Json) :
    (tagged tag content).depth = content.depth + 1 := by
  simp [tagged, depth, depthMembers]

/-- The fuel that is left for the members of an object. -/
theorem exists_fuel_members {members : List (String × Json)} {fuel : Nat}
    (h : (object members).depth ≤ fuel) :
    ∃ left, fuel = left + 1 ∧ depthMembers members ≤ left := by
  cases fuel with
  | zero => exact absurd (Nat.le_trans (one_le_depth _) h) (Nat.not_succ_le_zero 0)
  | succ left => exact ⟨left, rfl, Nat.le_of_succ_le_succ (by rwa [depth] at h)⟩

/-- The fuel that is left for the content of a tag. -/
theorem exists_fuel_tagged {tag : String} {content : Json} {fuel : Nat}
    (h : (tagged tag content).depth ≤ fuel) : ∃ left, fuel = left + 1 ∧ content.depth ≤ left := by
  cases fuel with
  | zero => exact absurd (Nat.le_trans (one_le_depth _) h) (Nat.not_succ_le_zero 0)
  | succ left => exact ⟨left, rfl, Nat.le_of_succ_le_succ (by rwa [depth_tagged] at h)⟩

/-! ## Forms -/

/-- A tag around content in a form. -/
def Tagged (tag : String) (form : Json → Prop) (json : Json) : Prop :=
  ∃ content, json = tagged tag content ∧ form content

/-- A list of items, each in its form. -/
def Listed (forms : List (Json → Prop)) (json : Json) : Prop :=
  ∃ items, json = .array items ∧ List.Forall₂ (fun form item => form item) forms items

/-- A pair of items, each in its form. -/
def Paired (first second : Json → Prop) (json : Json) : Prop :=
  ∃ a b, json = .array [a, b] ∧ first a ∧ second b

/-- A datum that may be absent; absence is `null`. -/
def optionForm {α : Type} (form : α → Json → Prop) : Option α → Json → Prop
  | none => (· = .null)
  | some a => form a

/-- The name that a table gives an alternative. -/
def nameOf {α : Type} [BEq α] (table : List (String × α)) (a : α) : String :=
  ((table.find? (·.2 == a)).map (·.1)).getD ""

/-- A place for a member of an object: its name, the form of its value, and whether the datum
permits that it is left out. -/
structure Slot where
  name : String
  form : Json → Prop
  omissible : Prop := False

/-- A slot is filled by a member, or the member is left out. -/
def Slot.Filled (slot : Slot) (members : List (String × Json)) : Prop :=
  (∃ json, get? members slot.name = some json ∧ slot.form json) ∨
    (get? members slot.name = none ∧ slot.omissible)

/-- An object, without a name twice, that fills some slots. -/
def Laid (slots : List Slot) (json : Json) : Prop :=
  ∃ members, json = .object members ∧ (members.map Prod.fst).Nodup ∧
    ∀ slot ∈ slots, slot.Filled members

theorem get?_filter {members : List (String × Json)} {keep : String → Bool} {name : String} :
    get? (members.filter (keep ·.1)) name = if keep name then get? members name else none := by
  induction members with
  | nil => simp [get?]
  | cons member rest ih =>
    obtain ⟨written, value⟩ := member
    unfold get? at ih ⊢
    rw [List.filter_cons, List.find?_cons]
    by_cases hname : written = name
    · subst hname
      cases hkeep : keep written with
      | true => simp
      | false =>
        rw [hkeep] at ih
        simpa using ih
    · have hother : (written == name) = false := beq_false_of_ne hname
      cases hkeep : keep written with
      | true =>
        rw [if_pos rfl, List.find?_cons]
        simpa only [hother] using ih
      | false =>
        rw [if_neg Bool.false_ne_true]
        simpa only [hother] using ih

/-- Of the members of an object any may be removed that may be left out. -/
theorem Laid.kept {slots : List Slot} {members : List (String × Json)}
    (h : Laid slots (.object members)) (keep : String → Bool)
    (homissible : ∀ slot ∈ slots, keep slot.name = false → slot.omissible) :
    Laid slots (.object (members.filter (keep ·.1))) := by
  obtain ⟨_, hmembers, hnames, hslots⟩ := h
  cases hmembers
  refine ⟨_, rfl, hnames.sublist (List.filter_sublist.map Prod.fst), ?_⟩
  intro slot hslot
  unfold Slot.Filled
  rw [get?_filter]
  cases hkeep : keep slot.name with
  | true => exact hslots slot hslot
  | false => exact .inr ⟨rfl, homissible slot hslot hkeep⟩

/-- An object with a member for each slot, under different names, fills the slots. -/
theorem laid_object {slots : List Slot} {members : List (String × Json)}
    (hnames : (members.map Prod.fst).Nodup)
    (h : List.Forall₂ (fun slot member => slot.name = member.1 ∧ slot.form member.2)
      slots members) :
    Laid slots (.object members) := by
  refine ⟨members, rfl, hnames, ?_⟩
  intro slot hslot
  refine .inl ?_
  induction h with
  | nil => cases hslot
  | @cons first member slots members hfirst hrest ih =>
    obtain ⟨written, value⟩ := member
    obtain ⟨hnew, hnames⟩ := List.nodup_cons.mp hnames
    rcases List.mem_cons.mp hslot with rfl | hslot
    · refine ⟨value, ?_, hfirst.2⟩
      rw [get?, List.find?_cons_of_pos]
      · rfl
      · simp [hfirst.1]
    · obtain ⟨json, hget, hform⟩ := ih hnames hslot
      refine ⟨json, ?_, hform⟩
      rw [get?, List.find?_cons_of_neg, ← get?]
      · exact hget
      · have hmem : slot.name ∈ members.map Prod.fst := by
          cases hfound : members.find? (·.1 == slot.name) with
          | none =>
            rw [get?, hfound] at hget
            cases hget
          | some found =>
            have hname : found.1 = slot.name := by simpa using List.find?_some hfound
            exact hname ▸ List.mem_map_of_mem (List.mem_of_find?_eq_some hfound)
        intro hsame
        have hname : slot.name = written := (beq_iff_eq.mp hsame).symm
        exact hnew (hname ▸ hmem)

/-! ## Decoders -/

section Decoders

variable {α β : Type} {a : α} {as : List α} {form : Json → Prop} {bound : Nat}

/-- A decoder reads a datum back from each of its forms up to a number of levels. -/
def Decodes (decode : Json → Option α) (form : Json → Prop) (bound : Nat) (a : α) : Prop :=
  ∀ json, json.depth ≤ bound → form json → decode json = some a

/-- A decoder reads some data back from lists of their forms. -/
def DecodesAll (decode : Json → Option α) (forms : List (Json → Prop)) (bound : Nat)
    (as : List α) : Prop :=
  ∀ items, depthItems items ≤ bound → List.Forall₂ (fun form item => form item) forms items →
    items.mapM decode = some as

variable {decode : Json → Option α} {forms : List (Json → Prop)}

theorem decodes_of_eq {json : Json} (h : decode json = some a) :
    Decodes decode (· = json) bound a := by
  rintro _ - rfl
  exact h

/-- A decoder that has read something goes on with it. -/
theorem read_bind {read : Option α} {next : α → Option β} {b : β} (hread : read = some a)
    (hnext : next a = some b) : (read >>= next) = some b := by
  rw [hread]
  exact hnext

theorem decodesAll_nil : DecodesAll decode [] bound [] := by
  intro items _ hforms
  cases hforms
  rfl

theorem DecodesAll.cons (ha : Decodes decode form bound a)
    (has : DecodesAll decode forms bound as) :
    DecodesAll decode (form :: forms) bound (a :: as) := by
  intro items hdepth hforms
  obtain ⟨item, rest, hitem, hrest, rfl⟩ := List.forall₂_cons_left_iff.mp hforms
  rw [depthItems, Nat.max_le] at hdepth
  rw [List.mapM_cons, ha item hdepth.1 hitem, has rest hdepth.2 hrest]
  rfl

theorem decodesAll_map {formOf : α → Json → Prop}
    (h : ∀ a ∈ as, Decodes decode (formOf a) bound a) :
    DecodesAll decode (as.map formOf) bound as := by
  induction as with
  | nil => exact decodesAll_nil
  | cons first rest ih =>
    obtain ⟨hfirst, hrest⟩ := List.forall_mem_cons.mp h
    exact .cons hfirst (ih hrest)

theorem DecodesAll.listed (h : DecodesAll decode forms bound as) :
    Decodes (list? decode) (Listed forms) bound as := by
  rintro _ hdepth ⟨items, rfl, hforms⟩
  rw [depth] at hdepth
  exact h items (Nat.le_of_succ_le hdepth) hforms

theorem Decodes.paired {first : Json → Option α} {second : Json → Option β} {b : β}
    {form' : Json → Prop} (ha : Decodes first form bound a) (hb : Decodes second form' bound b) :
    Decodes (pair? first second) (Paired form form') bound (a, b) := by
  rintro _ hdepth ⟨x, y, rfl, hx, hy⟩
  simp only [depth, depthItems] at hdepth
  rw [pair?, ha x (by omega) hx, hb y (by omega) hy]
  rfl

theorem decodes_null : Decodes (nullable? decode) (· = .null) bound none := by
  rintro _ - rfl
  rfl

/-- What a decoder reads that does not read `null` may be absent. -/
theorem Decodes.nullable (h : Decodes decode form bound a) (hnull : decode .null = none) :
    Decodes (nullable? decode) form bound (some a) := by
  intro json hdepth hform
  have hread := h json hdepth hform
  unfold nullable?
  split
  · rw [hnull] at hread
    cases hread
  · rw [hread]
    rfl

theorem decodes_option {form : α → Json → Prop} {a : Option α}
    (h : ∀ datum, Decodes decode (form datum) bound datum) (hnull : decode .null = none) :
    Decodes (nullable? decode) (optionForm form a) bound a := by
  cases a with
  | none => exact decodes_null
  | some datum => exact (h datum).nullable hnull

/-! Decoders that spend fuel: `decode fuel` reads a datum through decoders that `decode` calls with
the fuel that is left. -/

section Fuel

variable (decode : Nat → Json → Option α) {fuel : Nat} {b : β} {tag : String} {slots : List Slot}

theorem decodes_fueled {json : Json} (h : ∀ left, decode (left + 1) json = some a) :
    Decodes (decode fuel) (· = json) fuel a := by
  rintro _ hdepth rfl
  cases fuel with
  | zero => exact absurd (Nat.le_trans (one_le_depth _) hdepth) (Nat.not_succ_le_zero 0)
  | succ left => exact h left

theorem decodes_tagged {inner : Nat → Json → Option β} (make : β → α)
    (hinner : ∀ left, Decodes (inner left) form left b)
    (hdecode : ∀ left content,
      decode (left + 1) (tagged tag content) = (do return make (← inner left content))) :
    Decodes (decode fuel) (Tagged tag form) fuel (make b) := by
  rintro _ hdepth ⟨content, rfl, hform⟩
  obtain ⟨left, rfl, hcontent⟩ := exists_fuel_tagged hdepth
  rw [hdecode, hinner left content hcontent hform]
  rfl

theorem decodes_laid
    (h : ∀ left members, depthMembers members ≤ left → (∀ slot ∈ slots, slot.Filled members) →
      decode (left + 1) (.object members) = some a) :
    Decodes (decode fuel) (Laid slots) fuel a := by
  rintro _ hdepth ⟨members, rfl, -, hslots⟩
  obtain ⟨left, rfl, hbound⟩ := exists_fuel_members hdepth
  exact h left members hbound hslots

end Fuel

theorem decodes_int64 (n : Int64) : Decodes int64? (· = ofInt n.toInt) bound n := by
  apply decodes_of_eq
  have hlow : -9223372036854775808 ≤ n.toInt := n.le_toInt
  have hhigh := n.toInt_le
  simp [int64?, ofInt, int?, hlow, hhigh]

theorem below?_ofNat {n size : Nat} (h : n < size) : below? size (ofNat n) = some n := by
  simp [below?, ofNat, int?, h]

theorem decodes_uint64 (n : UInt64) : Decodes uint64? (· = ofNat n.toNat) bound n := by
  apply decodes_of_eq
  rw [uint64?, below?_ofNat n.toNat_lt]
  simp

theorem decodes_octet (octet : UInt8) : Decodes octet? (· = ofNat octet.toNat) bound octet := by
  apply decodes_of_eq
  rw [octet?, below?_ofNat octet.toNat_lt]
  simp

theorem decodes_bool (b : Bool) : Decodes bool? (· = .bool b) bound b :=
  decodes_of_eq rfl

theorem decodes_string (text : String) : Decodes string? (· = .string text) bound text :=
  decodes_of_eq rfl

/-- An alternative without content that a table lists under one name. -/
theorem decodes_name [BEq α] {table : List (String × α)} (a : α)
    (h : table.lookup (nameOf table a) = some a) :
    Decodes (unit? table) (· = tagOf table a) bound a :=
  decodes_of_eq h

variable {members : List (String × Json)} {name : String}

theorem Slot.Filled.required (h : Slot.Filled ⟨name, form, False⟩ members)
    (hdecode : Decodes decode form bound a) (hbound : depthMembers members ≤ bound) :
    Json.required members name decode = some a := by
  rcases h with ⟨json, hget, hform⟩ | ⟨-, hfalse⟩
  · rw [Json.required, hget]
    exact hdecode json (Nat.le_trans (depth_le_depthMembers hget) hbound) hform
  · exact absurd hfalse id

theorem Slot.Filled.optional {default : α}
    (h : Slot.Filled ⟨name, form, a = default⟩ members)
    (hdecode : Decodes decode form bound a) (hbound : depthMembers members ≤ bound) :
    Json.optional members name decode default = some a := by
  rcases h with ⟨json, hget, hform⟩ | ⟨hget, rfl⟩
  · rw [Json.optional, hget]
    exact hdecode json (Nat.le_trans (depth_le_depthMembers hget) hbound) hform
  · rw [Json.optional, hget]

end Decoders

/-! ## Encodings -/

section Encodings

variable {α : Type} {form : α → Json → Prop} {encode : α → Json}

theorem listed_map {as : List α} (h : ∀ a ∈ as, form a (encode a)) :
    Listed (as.map form) (ofList encode as) :=
  ⟨_, rfl, List.forall₂_map_left_iff.mpr (List.forall₂_map_right_iff.mpr
    (List.forall₂_same.mpr h))⟩

theorem optionForm_json {a : Option α} (h : ∀ datum ∈ a, form datum (encode datum)) :
    optionForm form a (ofOption encode a) := by
  cases a with
  | none => exact rfl
  | some datum => exact h datum rfl

/-- JSON loses nothing of some data: what is written of a datum with finite numbers is one of its
forms, every form of a datum is read as the datum, and so what is written is read back. -/
structure Lossless (encode : α → Json) (decode : Json → Option α) (form : α → Json → Prop)
    (finite : α → Prop) : Prop where
  encoded : ∀ a, finite a → form a (encode a)
  decoded : ∀ a json, form a json → decode json = some a
  restored : ∀ a, finite a → decode (encode a) = some a

theorem lossless_of_forms {decode : Json → Option α} {finite : α → Prop}
    (hencode : ∀ a, finite a → form a (encode a))
    (hdecode : ∀ a bound, Decodes decode (form a) bound a) :
    Lossless encode decode form finite := by
  have hread : ∀ a json, form a json → decode json = some a := fun a json hform =>
    hdecode a json.depth json (Nat.le_refl _) hform
  exact ⟨hencode, hread, fun a h => hread a _ (hencode a h)⟩

end Encodings

end QueryLoom.Json
