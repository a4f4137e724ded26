import OpeningTimes.Log.Setting
import Mathlib.Data.List.Forall2
import Mathlib.Data.List.Induction

/-!
What a list of entries in a setting comes to: for every target one threshold is in force, that of
the longest start for which there is an entry, and else a general one.
-/

namespace OpeningTimes

namespace Text

theorem pieces_of_not_mem {mark : Char} {piece : List Char} (hmark : mark ∉ piece) :
    pieces mark piece = [piece] := by
  induction piece with
  | nil => rfl
  | cons c rest ih =>
      simp only [List.mem_cons, not_or] at hmark
      simp [pieces, Ne.symm hmark.1, ih hmark.2]

theorem pieces_append_mark {mark : Char} {piece : List Char} (hmark : mark ∉ piece)
    (rest : List Char) : pieces mark (piece ++ mark :: rest) = piece :: pieces mark rest := by
  induction piece with
  | nil => simp [pieces]
  | cons c piece ih =>
      simp only [List.mem_cons, not_or] at hmark
      simp [pieces, Ne.symm hmark.1, ih hmark.2]

/-- Pieces that are joined by marks are the pieces between the marks. -/
theorem pieces_intercalate {mark : Char} {parts : List (List Char)} (hne : parts ≠ [])
    (hmark : ∀ part ∈ parts, mark ∉ part) : pieces mark ([mark].intercalate parts) = parts := by
  induction parts with
  | nil => exact absurd rfl hne
  | cons part rest ih =>
      have hpart : mark ∉ part := hmark part List.mem_cons_self
      cases rest with
      | nil => simpa using pieces_of_not_mem hpart
      | cons next rest =>
          rw [List.intercalate_cons_cons, List.append_assoc, List.singleton_append,
            pieces_append_mark hpart, ih (by simp) fun part hmem =>
              hmark part (List.mem_cons_of_mem _ hmem)]

theorem not_mem_intercalate {c mark : Char} (hne : c ≠ mark) {parts : List (List Char)}
    (hparts : ∀ part ∈ parts, c ∉ part) : c ∉ [mark].intercalate parts := by
  induction parts with
  | nil => simp
  | cons part rest ih =>
      have hpart : c ∉ part := hparts part List.mem_cons_self
      have hrest := ih fun part hmem => hparts part (List.mem_cons_of_mem _ hmem)
      cases rest with
      | nil => simpa using hpart
      | cons next rest =>
          rw [List.intercalate_cons_cons, List.mem_append, List.mem_append, List.mem_singleton]
          simp [hne, hpart, hrest]

theorem mem_dropWhile_isSpace {c : Char} {cs : List Char} (hmem : c ∈ cs)
    (hspace : isSpace c = false) : c ∈ cs.dropWhile isSpace := by
  induction cs with
  | nil => exact hmem
  | cons first rest ih =>
      rcases List.mem_cons.1 hmem with rfl | hrest
      · simp [hspace]
      · rw [List.dropWhile_cons]
        split
        · exact ih hrest
        · exact hmem

/-- Only white space is taken off. -/
theorem mem_trimmed {c : Char} {cs : List Char} (hmem : c ∈ cs) (hspace : isSpace c = false) :
    c ∈ trimmed cs := by
  rw [trimmed, List.mem_reverse]
  exact mem_dropWhile_isSpace (List.mem_reverse.2 (mem_dropWhile_isSpace hmem hspace)) hspace

theorem trimmed_of_no_space {cs : List Char} (hspace : ∀ c ∈ cs, isSpace c = false) :
    trimmed cs = cs := by
  have hkeep : ∀ {cs : List Char}, (∀ c ∈ cs, isSpace c = false) → cs.dropWhile isSpace = cs := by
    intro cs hspace
    cases cs with
    | nil => rfl
    | cons first rest => simp [hspace first List.mem_cons_self]
  rw [trimmed, hkeep hspace, hkeep fun c hc => hspace c (List.mem_reverse.1 hc),
    List.reverse_reverse]

end Text

namespace Threshold

def word : Threshold → String
  | off => "off"
  | upTo .error => "error"
  | upTo .warn => "warn"
  | upTo .info => "info"
  | upTo .debug => "debug"
  | upTo .trace => "trace"

theorem ofName?_of_word {name : List Char} {threshold : Threshold}
    (hname : String.ofList (name.map Char.toLower) = threshold.word) :
    ofName? name = some threshold := by
  rw [ofName?, hname]
  cases threshold with
  | off => rfl
  | upTo level => cases level <;> rfl

/-- The levels that a threshold lets through, from the most urgent one on. -/
def levels : Threshold → List Level
  | off => []
  | upTo .error => [.error]
  | upTo .warn => [.error, .warn]
  | upTo .info => [.error, .warn, .info]
  | upTo .debug => [.error, .warn, .info, .debug]
  | upTo .trace => [.error, .warn, .info, .debug, .trace]

theorem shows_eq_mem_levels (threshold : Threshold) (level : Level) :
    threshold.shows level = decide (level ∈ threshold.levels) := by
  cases threshold with
  | off => rfl
  | upTo limit => cases limit <;> cases level <;> rfl

/-- White space has no capital form. -/
theorem toLower_of_isSpace {c : Char} (hspace : Text.isSpace c = true) : c.toLower = c := by
  have hupper : ¬ (c.val ≥ 'A'.val ∧ c.val ≤ 'Z'.val) := by
    rintro ⟨hlow, hhigh⟩
    have hlow : 65 ≤ c.toNat := hlow
    have hhigh : c.toNat ≤ 90 := hhigh
    simp only [Text.isSpace, Bool.or_eq_true, Bool.and_eq_true, decide_eq_true_eq,
      beq_iff_eq] at hspace
    omega
  exact dif_neg hupper

/-- The words for thresholds are made of letters. -/
theorem toLower_of_word {name : List Char} {threshold : Threshold}
    (hname : String.ofList (name.map Char.toLower) = threshold.word) {c : Char} (hc : c ∈ name) :
    97 ≤ c.toLower.toNat ∧ c.toLower.toNat ≤ 122 := by
  have hletters : ∀ d ∈ threshold.word.toList, 97 ≤ d.toNat ∧ d.toNat ≤ 122 := by
    cases threshold with
    | off => simp [word]
    | upTo level => cases level <;> simp [word]
  refine hletters c.toLower ?_
  rw [← hname, String.toList_ofList]
  exact List.mem_map_of_mem hc

/-- A word for a threshold holds no white space and no mark of a setting. -/
theorem plain_of_word {name : List Char} {threshold : Threshold}
    (hname : String.ofList (name.map Char.toLower) = threshold.word) {c : Char} (hc : c ∈ name) :
    Text.isSpace c = false ∧ c ≠ ',' ∧ c ≠ '/' ∧ c ≠ '=' := by
  have hletter := toLower_of_word hname hc
  refine ⟨?_, ?_, ?_, ?_⟩
  · cases hspace : Text.isSpace c with
    | false => rfl
    | true =>
        rw [toLower_of_isSpace hspace] at hletter
        simp only [Text.isSpace, Bool.or_eq_true, Bool.and_eq_true, decide_eq_true_eq,
          beq_iff_eq] at hspace
        omega
  all_goals
    rintro rfl
    revert hletter
    decide

end Threshold

/-- An entry as it is written in a setting: a level alone, or the start of targets and a level with
an equals sign between them.  The level may be written in capitals. -/
inductive EntryText : SettingEntry → List Char → Prop
  | general {name : List Char} {threshold : Threshold}
      (hname : String.ofList (name.map Char.toLower) = threshold.word) :
      EntryText (.general threshold) name
  | target {start name : List Char} {threshold : Threshold}
      (hstart : ∀ c ∈ start, c ≠ ',' ∧ c ≠ '/' ∧ c ≠ '=')
      (hname : String.ofList (name.map Char.toLower) = threshold.word) :
      EntryText (.target (String.ofList start) threshold) (start ++ '=' :: name)

/-- A setting that is not there, that is empty or that lists entries with commas between them.
White space around an entry does not count. -/
def ListsEntries (entries : List SettingEntry) (setting : Option String) : Prop :=
  ∃ parts, setting.getD "" = String.ofList ([','].intercalate parts) ∧
    List.Forall₂ (fun entry part => EntryText entry (Text.trimmed part)) entries parts

theorem EntryText.ne_nil {entry : SettingEntry} {text : List Char} (hentry : EntryText entry text) :
    text ≠ [] := by
  cases hentry with
  | general hname =>
      rintro rfl
      cases Threshold.ofName?_of_word hname
  | target hstart hname => simp

/-- An entry that is written so is read so. -/
theorem EntryText.ofPiece {entry : SettingEntry} {text : List Char}
    (hentry : EntryText entry text) : SettingEntry.ofPiece text = .ok entry := by
  cases hentry with
  | general hname =>
      have hequals : '=' ∉ text := fun hc => (Threshold.plain_of_word hname hc).2.2.2 rfl
      simp only [SettingEntry.ofPiece, Text.pieces_of_not_mem hequals,
        Threshold.ofName?_of_word hname]
  | @target start name threshold hstart hname =>
      have hfirst : '=' ∉ start := fun hc => (hstart _ hc).2.2 rfl
      have hequals : '=' ∉ name := fun hc => (Threshold.plain_of_word hname hc).2.2.2 rfl
      have htrimmed : Text.trimmed name = name :=
        Text.trimmed_of_no_space fun c hc => (Threshold.plain_of_word hname hc).1
      have hne : name.isEmpty = false := by
        cases name with
        | nil => cases Threshold.ofName?_of_word hname
        | cons c rest => rfl
      simp [SettingEntry.ofPiece, Text.pieces_append_mark hfirst, Text.pieces_of_not_mem hequals,
        htrimmed, hne, Threshold.ofName?_of_word hname]

/-- No entry has a comma or a slash in it. -/
theorem EntryText.unmarked {entry : SettingEntry} {part : List Char}
    (hentry : EntryText entry (Text.trimmed part)) : ',' ∉ part ∧ '/' ∉ part := by
  have htext : ∀ {text : List Char}, EntryText entry text → ',' ∉ text ∧ '/' ∉ text := by
    intro text hentry
    cases hentry with
    | general hname =>
        exact ⟨fun hc => (Threshold.plain_of_word hname hc).2.1 rfl,
          fun hc => (Threshold.plain_of_word hname hc).2.2.1 rfl⟩
    | target hstart hname =>
        simp only [List.mem_append, List.mem_cons, not_or]
        exact ⟨⟨fun hc => (hstart _ hc).1 rfl, by decide,
            fun hc => (Threshold.plain_of_word hname hc).2.1 rfl⟩,
          ⟨fun hc => (hstart _ hc).2.1 rfl, by decide,
            fun hc => (Threshold.plain_of_word hname hc).2.2.1 rfl⟩⟩
  obtain ⟨hcomma, hslash⟩ := htext hentry
  exact ⟨fun hc => hcomma (Text.mem_trimmed hc (by decide)),
    fun hc => hslash (Text.mem_trimmed hc (by decide))⟩

/-- The filter after some entries have been added to the one that shows warnings. -/
def LogFilter.ofEntries (entries : List SettingEntry) : LogFilter :=
  entries.foldl add {}

namespace LogSetting

theorem addPiece_of_entryText {entry : SettingEntry} {part : List Char}
    (hentry : EntryText entry (Text.trimmed part)) (setting : LogSetting) :
    addPiece setting part = { setting with filter := setting.filter.add entry } := by
  have hne : (Text.trimmed part).isEmpty = false := by
    simpa [List.isEmpty_eq_false_iff] using hentry.ne_nil
  simp [addPiece, hne, hentry.ofPiece]

theorem foldl_addPiece {entries : List SettingEntry} {parts : List (List Char)}
    (hparts : List.Forall₂ (fun entry part => EntryText entry (Text.trimmed part)) entries parts)
    (setting : LogSetting) :
    parts.foldl addPiece setting =
      { setting with filter := entries.foldl LogFilter.add setting.filter } := by
  induction hparts generalizing setting with
  | nil => rfl
  | cons hentry _ ih => rw [List.foldl_cons, addPiece_of_entryText hentry, ih, List.foldl_cons]

/-- A setting that lists entries has no fault, and its filter comes from adding them in order. -/
theorem ofText_of_listsEntries {entries : List SettingEntry} {setting : Option String}
    (hsetting : ListsEntries entries setting) :
    ofText (setting.getD "") = { filter := .ofEntries entries } := by
  obtain ⟨parts, htext, hparts⟩ := hsetting
  have hunmarked : ∀ part ∈ parts, ',' ∉ part ∧ '/' ∉ part := by
    clear htext
    induction hparts with
    | nil => simp
    | cons hentry _ ih => exact List.forall_mem_cons.2 ⟨hentry.unmarked, ih⟩
  have hslash : '/' ∉ [','].intercalate parts :=
    Text.not_mem_intercalate (by decide) fun part hpart => (hunmarked part hpart).2
  have hentries : addEntries {} ([','].intercalate parts) = parts.foldl addPiece {} := by
    cases parts with
    | nil => rfl
    | cons part rest =>
        rw [addEntries, Text.pieces_intercalate (by simp) fun part hpart =>
          (hunmarked part hpart).1]
  rw [ofText, htext, String.toList_ofList, Text.pieces_of_not_mem hslash]
  exact hentries.trans (foldl_addPiece hparts {})

end LogSetting

/-- The start of the targets that an entry is for, if it is not for all. -/
def SettingEntry.start? : SettingEntry → Option String
  | .general _ => none
  | .target start _ => some start

def SettingEntry.threshold : SettingEntry → Threshold
  | .general threshold => threshold
  | .target _ threshold => threshold

/-- The threshold in the last entry for a start, or in the last entry for all targets. -/
def lastThreshold (entries : List SettingEntry) (start? : Option String) : Option Threshold :=
  ((entries.filter (fun entry => entry.start? == start?)).getLast?).map SettingEntry.threshold

/-- There is an entry for a start, and the target starts with it. -/
def Matches (entries : List SettingEntry) (target start : String) : Prop :=
  (∃ threshold, lastThreshold entries (some start) = some threshold) ∧
    start.toList <+: target.toList

/-- The threshold in force for a target: that of the last entry for the longest start that matches
it.  When none matches, it is what was asked for by other means, or else the last level alone, or
else `warn`. -/
inductive InForce (entries : List SettingEntry) (asked : Option Threshold) (target : String) :
    Threshold → Prop
  | target {start : String} {threshold : Threshold} (hmatches : Matches entries target start)
      (hlongest : ∀ other, Matches entries target other → other.length ≤ start.length)
      (hlast : lastThreshold entries (some start) = some threshold) :
      InForce entries asked target threshold
  | general (hnone : ∀ start, ¬ Matches entries target start) :
      InForce entries asked target ((asked <|> lastThreshold entries none).getD (.upTo .warn))

theorem lastThreshold_append_singleton (entries : List SettingEntry) (entry : SettingEntry)
    (start? : Option String) :
    lastThreshold (entries ++ [entry]) start? =
      if entry.start? = start? then some entry.threshold else lastThreshold entries start? := by
  by_cases hstart : entry.start? = start? <;> simp [lastThreshold, hstart]

namespace LogFilter

theorem ofEntries_append_singleton (entries : List SettingEntry) (entry : SettingEntry) :
    ofEntries (entries ++ [entry]) = (ofEntries entries).add entry := by
  simp [ofEntries]

theorem general_ofEntries (entries : List SettingEntry) :
    (ofEntries entries).general = (lastThreshold entries none).getD (.upTo .warn) := by
  induction entries using List.reverseRecOn with
  | nil => rfl
  | append_singleton entries entry ih =>
      rw [ofEntries_append_singleton, lastThreshold_append_singleton]
      cases entry with
      | general threshold => rfl
      | target start threshold => exact ih

theorem pattern_ofEntries (entries : List SettingEntry) : (ofEntries entries).pattern = none := by
  induction entries using List.reverseRecOn with
  | nil => rfl
  | append_singleton entries entry ih =>
      rw [ofEntries_append_singleton]
      cases entry with
      | general threshold => exact ih
      | target start threshold => exact ih

/-- The filter has a threshold for a start when an entry does, the last one. -/
theorem mem_targets_ofEntries (entries : List SettingEntry) (start : String)
    (threshold : Threshold) :
    (start, threshold) ∈ (ofEntries entries).targets ↔
      lastThreshold entries (some start) = some threshold := by
  induction entries using List.reverseRecOn with
  | nil => simp [ofEntries, lastThreshold]
  | append_singleton entries entry ih =>
      rw [ofEntries_append_singleton, lastThreshold_append_singleton]
      cases entry with
      | general level => exact ih
      | target other level =>
          by_cases hother : other = start
          · simp [add, setTarget, SettingEntry.start?, SettingEntry.threshold, hother, eq_comm]
          · simp [add, setTarget, SettingEntry.start?, hother, Ne.symm hother, ih]

/-- The longest of several entries is one of them and no shorter than any. -/
theorem foldl_longer (rest : List (String × Threshold)) (first : String × Threshold) :
    rest.foldl longer first ∈ first :: rest ∧
      ∀ entry ∈ first :: rest, entry.1.length ≤ (rest.foldl longer first).1.length := by
  induction rest generalizing first with
  | nil => simp
  | cons next rest ih =>
      obtain ⟨hmem, hlongest⟩ := ih (longer first next)
      have hkept : longer first next = first ∨ longer first next = next := by
        unfold longer
        split <;> simp
      have hfirst : first.1.length ≤ (longer first next).1.length ∧
          next.1.length ≤ (longer first next).1.length := by
        unfold longer
        split <;> omega
      rw [List.foldl_cons]
      refine ⟨?_, fun entry hentry => ?_⟩
      · rcases List.mem_cons.1 hmem with hhead | htail
        · rw [hhead]
          rcases hkept with h | h <;> simp [h]
        · simp [htail]
      · have hhead := hlongest _ List.mem_cons_self
        rcases List.mem_cons.1 hentry with rfl | hentry
        · omega
        · rcases List.mem_cons.1 hentry with rfl | hentry
          · omega
          · exact hlongest entry (List.mem_cons_of_mem _ hentry)

/-- The targets of a filter that a target starts with. -/
def matching (filter : LogFilter) (target : String) : List (String × Threshold) :=
  filter.targets.filter fun entry => entry.1.toList.isPrefixOf target.toList

/-- The general threshold only counts when no target matches. -/
theorem threshold_general (filter : LogFilter) (general : Threshold) (target : String) :
    LogFilter.threshold { filter with general := general } target =
      match matching filter target with
      | [] => general
      | first :: rest => (rest.foldl longer first).2 := rfl

theorem mem_matching_iff {entries : List SettingEntry} {target start : String}
    {threshold : Threshold} :
    (start, threshold) ∈ matching (ofEntries entries) target ↔
      lastThreshold entries (some start) = some threshold ∧ start.toList <+: target.toList := by
  rw [matching, List.mem_filter, mem_targets_ofEntries entries start threshold,
    List.isPrefixOf_iff_prefix]

/-- The longest of the targets that match is in the list, and no entry that matches is longer. -/
theorem foldl_longer_matching {entries : List SettingEntry} {target : String}
    {first : String × Threshold} {rest : List (String × Threshold)}
    (hmatching : matching (ofEntries entries) target = first :: rest) :
    lastThreshold entries (some (rest.foldl longer first).1) = some (rest.foldl longer first).2 ∧
      (rest.foldl longer first).1.toList <+: target.toList ∧
      ∀ other, Matches entries target other →
        other.length ≤ (rest.foldl longer first).1.length := by
  obtain ⟨hbest, hlongest⟩ := foldl_longer rest first
  rw [← hmatching] at hbest hlongest
  obtain ⟨hlast, hprefix⟩ := mem_matching_iff.1 hbest
  refine ⟨hlast, hprefix, ?_⟩
  rintro other ⟨⟨threshold, hother⟩, hstart⟩
  exact hlongest (other, threshold) (mem_matching_iff.2 ⟨hother, hstart⟩)

/-- Two starts of one target that are equally long are the same. -/
theorem eq_of_starts {target start other : String} (hstart : start.toList <+: target.toList)
    (hother : other.toList <+: target.toList) (hlength : start.length = other.length) :
    start = other := by
  have hstarts := List.prefix_of_prefix_length_le hstart hother (Nat.le_of_eq hlength)
  exact String.toList_inj.1 (hstarts.eq_of_length hlength)

/-- A filter that comes from entries has the threshold in force for every target, whether its
general threshold is replaced or not. -/
theorem inForce_iff (entries : List SettingEntry) (asked : Option Threshold)
    (target : String) (threshold : Threshold) :
    InForce entries asked target threshold ↔
      threshold = LogFilter.threshold
        { ofEntries entries with general := asked.getD (ofEntries entries).general } target := by
  rw [threshold_general]
  cases hmatching : matching (ofEntries entries) target with
  | nil =>
      have hnone : ∀ start, ¬ Matches entries target start := by
        rintro start ⟨⟨other, hlast⟩, hstart⟩
        have hmem := mem_matching_iff.2 ⟨hlast, hstart⟩
        simp [hmatching] at hmem
      have hgeneral : (asked <|> lastThreshold entries none).getD (.upTo .warn) =
          asked.getD (ofEntries entries).general := by
        rw [general_ofEntries]
        cases asked <;> rfl
      rw [← hgeneral]
      constructor
      · intro hforce
        cases hforce with
        | target hmatches => exact absurd hmatches (hnone _)
        | general => rfl
      · rintro rfl
        exact .general hnone
  | cons first rest =>
      obtain ⟨hlast, hprefix, hmost⟩ := foldl_longer_matching hmatching
      have hbest : Matches entries target (rest.foldl longer first).1 := ⟨⟨_, hlast⟩, hprefix⟩
      constructor
      · intro hforce
        cases hforce with
        | @target start _ hmatches hlong hstart =>
            obtain rfl := eq_of_starts hmatches.2 hprefix
              (Nat.le_antisymm (hmost start hmatches) (hlong _ hbest))
            rw [hlast] at hstart
            exact (Option.some.inj hstart).symm
        | general hnone => exact absurd hbest (hnone _)
      · rintro rfl
        exact .target hbest hmost hlast

end LogFilter

end OpeningTimes
