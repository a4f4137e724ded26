import OpeningTimes.Proofs.Json.Integer
import OpeningTimes.Proofs.Json.Records

/-!
Ways to write values.  A decoder understands a way to write values when it reads every text that
writes a value as this value.  There is one lemma for each way to build a decoder.
-/

namespace OpeningTimes.Json

def IntegerText (value : Int) : Texts := fun text =>
  text = (toString value).toList

def ByteText (n : UInt8) : Texts :=
  IntegerText n.toNat

def WordText (n : UInt16) : Texts :=
  IntegerText n.toNat

def BooleanText (value : Bool) : Texts := fun text =>
  text = (if value then "true" else "false").toList

/-- A value that is written as `P` says, or null for an absent one. -/
inductive OptionText {α : Type} (P : α → Texts) : Option α → Texts
  | null : OptionText P none ['n', 'u', 'l', 'l']
  | value {value : α} {text : List Char} (htext : P value text) : OptionText P (some value) text

/-- A list of values that are written as `P` says, in any layout. -/
inductive ListText {α : Type} (P : α → Texts) : List α → Texts
  | list {values : List α} {text : List Char} (hvalues : Separated P values text) :
      ListText P values ('[' :: (text ++ [']']))

/-- The decoder reads every text that writes a value as this value. -/
def Understands {α : Type} (read : Decoder α) (P : α → Texts) : Prop :=
  ∀ value text, P value text → Reads read text value

/-- No value is written like the null that stands for an absent one. -/
def NeverNull {α : Type} (P : α → Texts) : Prop :=
  ∀ value text, P value text → text.head? ≠ some 'n'

section Decoders

variable {α : Type} {read : Decoder α} {P : α → Texts}

theorem understands_boolean : Understands Decoder.boolean BooleanText := by
  rintro value text rfl
  exact reads_boolean value

theorem understands_uint8 : Understands Decoder.uint8 ByteText := by
  rintro n text rfl
  exact reads_uint8 n

theorem understands_uint16 : Understands Decoder.uint16 WordText := by
  rintro n text rfl
  exact reads_uint16 n

theorem understands_int8 : Understands Decoder.int8 (fun n => IntegerText n.toInt) := by
  rintro n text rfl
  exact reads_int8 n

theorem understands_int16 : Understands Decoder.int16 (fun n => IntegerText n.toInt) := by
  rintro n text rfl
  exact reads_int16 n

theorem understands_string : Understands Decoder.string Spelled :=
  fun _ _ hspelled => reads_string hspelled

/-- Values that are written by name are understood if each is found under its name. -/
theorem understands_oneOf {names : List (String × α)} {name : α → String}
    (hlookup : ∀ value, names.lookup (name value) = some value) :
    Understands (Decoder.oneOf names) (fun value => Spelled (name value)) :=
  fun value _ hspelled => reads_oneOf (hlookup value) hspelled

theorem neverNull_integerText : NeverNull IntegerText := by
  rintro value text rfl
  obtain ⟨c, tail, htext, hc⟩ := toString_int_cons value
  rw [htext]
  intro hhead
  obtain rfl : c = 'n' := by simpa using hhead
  exact absurd hc (by decide)

theorem neverNull_byteText : NeverNull ByteText :=
  fun n => neverNull_integerText n.toNat

theorem neverNull_wordText : NeverNull WordText :=
  fun n => neverNull_integerText n.toNat

theorem neverNull_spelled : NeverNull Spelled := by
  intro value text hspelled
  rw [hspelled.head?]
  decide

theorem neverNull_recordText (slots : α → List Slot) :
    NeverNull (fun value => RecordText (slots value)) := by
  intro value text htext
  cases htext <;> simp

theorem optional_skipBlank (s : List Char) :
    Decoder.optional read s = Decoder.optional read (skipBlank s) := by
  rw [Decoder.optional, Decoder.optional, skipBlank_skipBlank]

theorem reads_null (read : Decoder α) : Reads (Decoder.optional read) "null".toList none := by
  have hopens : Opens "null".toList := ⟨'n', _, rfl, by decide, by decide⟩
  refine Reads.of_skipBlank hopens optional_skipBlank fun rest _ => ?_
  rw [Decoder.optional, hopens.skipBlank_append]
  simp [literal, bind, Except.bind]

/-- A text that does not start like null is read as a value that is there. -/
theorem Reads.optional {value : α} {text : List Char} (hreads : Reads read text value)
    (hnull : text.head? ≠ some 'n') : Reads (Decoder.optional read) text (some value) := by
  refine Reads.of_skipBlank hreads.opens optional_skipBlank fun rest hends => ?_
  have hsome := (hreads.map some).reads [] rest allBlank_nil hends
  rw [Decoder.optional, hreads.opens.skipBlank_append]
  split
  · next tail hn =>
    obtain ⟨c, s, rfl, -⟩ := hreads.opens
    obtain ⟨rfl, -⟩ := List.cons.inj hn
    exact absurd rfl hnull
  · exact hsome

theorem Understands.optional (hread : Understands read P) (hnull : NeverNull P) :
    Understands (Decoder.optional read) (OptionText P) := by
  intro option text htext
  cases htext with
  | null => exact reads_null read
  | @value value _ htext => exact (hread value text htext).optional (hnull value text htext)

theorem Understands.list (hread : Understands read P) :
    Understands (Decoder.list read) (ListText P) := by
  intro values text htext
  cases htext with
  | list hvalues => exact reads_list (hvalues.imp hread)

/-- A text that writes a value with blanks around it, and nothing else, decodes to the value. -/
theorem decode_of_reads {value : α} {before content after : List Char}
    (hreads : Reads read content value) (hbefore : AllBlank before) (hafter : AllBlank after)
    {text : String} (htext : text.toList = before ++ (content ++ after)) :
    Decoder.decode read text = .ok value := by
  have hread := hreads.reads before after hbefore (by simpa using ends_append hafter ends_nil)
  have hblank : skipBlank after = [] := by simpa [skipBlank] using skipBlank_append hafter []
  have hwhole : Decoder.whole read text.toList = .ok value := by
    simp [Decoder.whole, htext, hread, hblank, bind, Except.bind]
  rw [Decoder.decode, hwhole]

end Decoders

def Slot.required {α : Type} (name : String) (P : α → Texts) (value : α) : Slot :=
  ⟨name, P value, False⟩

/-- A field that may be left out when it has its default. -/
def Slot.defaulted {α : Type} (name : String) (P : α → Texts) (value default : α) : Slot :=
  ⟨name, P value, value = default⟩

theorem Slot.required_name {α : Type} (name : String) (P : α → Texts) (value : α) :
    (Slot.required name P value).name = name :=
  rfl

theorem Slot.defaulted_name {α : Type} (name : String) (P : α → Texts) (value default : α) :
    (Slot.defaulted name P value default).name = name :=
  rfl

section Fields

variable {α : Type} {types : List Type} {field : Field α} {fields : Fields types}
  {slots : List Slot} {P : α → Texts} {value : α} {values : Values types}

theorem fits_required (hread : Understands field.read P) (hrest : fields.Fits slots values) :
    (Fields.cons field fields).Fits (.required field.name P value :: slots) (value, values) :=
  .cons rfl (hread value) False.elim hrest

theorem fits_defaulted {default : α} (hread : Understands field.read P)
    (hdefault : field.default? = some default) (hrest : fields.Fits slots values) :
    (Fields.cons field fields).Fits (.defaulted field.name P value default :: slots)
      (value, values) :=
  .cons rfl (hread value) (fun hvalue => hvalue ▸ hdefault) hrest

end Fields

end OpeningTimes.Json
