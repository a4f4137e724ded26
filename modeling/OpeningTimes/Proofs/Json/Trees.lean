import OpeningTimes.Proofs.Json.Writings
import OpeningTimes.Rule.Encoding

/-!
Trees as ways to write values.  A tree stands for what its layouts write.  There is one lemma for
each way to build a tree.
-/

namespace OpeningTimes.Json

/-- Every layout of the tree is one of the texts. -/
def LaidAs (json : Json) (texts : Texts) : Prop :=
  ∀ text, Laid json text → texts text

theorem laidAs_boolean (value : Bool) : LaidAs (.boolean value) (BooleanText value) := by
  intro text hlaid
  cases hlaid with
  | boolean value => rfl

theorem laidAs_integer (value : Int) : LaidAs (.integer value) (IntegerText value) := by
  intro text hlaid
  cases hlaid with
  | integer value => rfl

theorem laidAs_string (value : String) : LaidAs (.string value) (Spelled value) := by
  intro text hlaid
  cases hlaid with
  | string hspelled => exact hspelled

theorem laidAs_list {α : Type} {P : α → Texts} {toJson : α → Json}
    (hlaid : ∀ value, LaidAs (toJson value) (P value)) (values : List α) :
    LaidAs (.list (values.map toJson)) (ListText P values) := by
  intro text htext
  cases htext with
  | list hitems => exact .list (hitems.of_map.imp hlaid)

/-- The members write the fields in their order.  A field that no member writes may be left out. -/
inductive Shown : List Slot → List (String × Json) → Prop
  | nil : Shown [] []
  | shown {slot : Slot} {slots : List Slot} {json : Json} {members : List (String × Json)}
      (hlaid : LaidAs json slot.writes) (hrest : Shown slots members) :
      Shown (slot :: slots) ((slot.name, json) :: members)
  | omitted {slot : Slot} {slots : List Slot} {members : List (String × Json)}
      (homitted : slot.omissible) (hrest : Shown slots members) : Shown (slot :: slots) members

section Members

variable {slots : List Slot} {members : List (String × Json)}

theorem Shown.sublist (hshown : Shown slots members) :
    (members.map Prod.fst).Sublist (slots.map Slot.name) := by
  induction hshown with
  | nil => exact .slnil
  | shown _ _ ih => exact ih.cons_cons _
  | omitted _ _ ih => exact ih.cons _

theorem Shown.exists_slot (hshown : Shown slots members) :
    ∀ member ∈ members, ∃ slot ∈ slots, slot.name = member.1 ∧ LaidAs member.2 slot.writes := by
  induction hshown with
  | nil => simp
  | @shown slot _ _ _ hlaid _ ih =>
      refine List.forall_mem_cons.2 ⟨⟨slot, List.mem_cons_self, rfl, hlaid⟩, ?_⟩
      intro member hmember
      obtain ⟨other, hother, hsame⟩ := ih member hmember
      exact ⟨other, List.mem_cons_of_mem slot hother, hsame⟩
  | @omitted slot _ _ _ _ ih =>
      intro member hmember
      obtain ⟨other, hother, hsame⟩ := ih member hmember
      exact ⟨other, List.mem_cons_of_mem slot hother, hsame⟩

theorem Shown.omissible (hshown : Shown slots members) :
    ∀ slot ∈ slots, slot.name ∈ members.map Prod.fst ∨ slot.omissible := by
  induction hshown with
  | nil => simp
  | shown _ _ ih =>
      refine List.forall_mem_cons.2 ⟨Or.inl List.mem_cons_self, ?_⟩
      intro slot hslot
      exact (ih slot hslot).imp_left (List.mem_cons_of_mem _)
  | omitted homitted _ ih => exact List.forall_mem_cons.2 ⟨Or.inr homitted, ih⟩

/-- Objects that show the fields of a record write the record. -/
theorem laidAs_object (hshown : Shown slots members) (hnames : (slots.map Slot.name).Nodup) :
    LaidAs (.object members) (RecordText slots) := by
  intro text hlaid
  cases hlaid with
  | object hcontent =>
      obtain ⟨written, hwritten, hkeys, htexts⟩ := hcontent.exists_texts
      have homitted := hshown.omissible
      have hnodup := hshown.sublist.nodup hnames
      rw [← hkeys] at homitted hnodup
      refine .object ?_ ?_ homitted hwritten
      · rintro ⟨key, value⟩ hpair
        obtain ⟨member, hmember, rfl, hlaid⟩ := htexts (key, value) hpair
        obtain ⟨slot, hslot, hname, hwrites⟩ := hshown.exists_slot member hmember
        rw [← hname]
        exact .field hslot (hwrites value hlaid)
      · refine hnodup.imp ?_
        intro key other hne _
        exact hne

theorem shown_required {α : Type} {P : α → Texts} {value : α} {json : Json} (name : String)
    (hlaid : LaidAs json (P value)) (hrest : Shown slots members) :
    Shown (.required name P value :: slots) ((name, json) :: members) :=
  .shown hlaid hrest

theorem shown_defaulted {α : Type} {P : α → Texts} {value default : α} {json : Json}
    (name : String) (hlaid : LaidAs json (P value)) (hrest : Shown slots members) :
    Shown (.defaulted name P value default :: slots) ((name, json) :: members) :=
  .shown hlaid hrest

theorem shown_optionalMember {α : Type} {P : α → Texts} {toJson : α → Json} (name : String)
    (hlaid : ∀ value, LaidAs (toJson value) (P value)) (option : Option α)
    (hrest : Shown slots members) :
    Shown (.defaulted name (OptionText P) option none :: slots)
      (optionalMember name toJson option ++ members) := by
  cases option with
  | none => exact .omitted rfl hrest
  | some value => exact .shown (fun text htext => .value (hlaid value text htext)) hrest

theorem shown_listMember {α : Type} {P : α → Texts} {toJson : α → Json} (name : String)
    (hlaid : ∀ value, LaidAs (toJson value) (P value)) (items : List α)
    (hrest : Shown slots members) :
    Shown (.defaulted name (ListText P) items [] :: slots)
      (listMember name toJson items ++ members) := by
  cases items with
  | nil => exact .omitted rfl hrest
  | cons item items => exact .shown (laidAs_list hlaid (item :: items)) hrest

end Members

end OpeningTimes.Json
