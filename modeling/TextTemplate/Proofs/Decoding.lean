import Mathlib
import TextTemplate.Config.Document
import TextTemplate.Toml.Document

/-!
Decoding a configuration.

A document gives every name once, so a configuration can be read off its entries in any order.  It accepts the
two settings it knows, with the values they can have; of all other entries the first is reported, and what stands
behind it is not looked at.

* `Config.fits_or_described`: an entry is a setting with a value it can have, or there is something wrong with it.
* `Config.fits_or_first_misfit`: all entries fit, or there is a first that does not.
* `ofEntries_decodes`: which entries are decoded, to what, and which fault is found in the others.
-/

namespace TextTemplate

/-! ### Markers -/

/-- The characters that can be a marker. -/
def marks : List Char := "!\"#$%&'()*+,-./:;<=>?@[\\]^_\u0060|~".toList

theorem servesAsMarker_iff {c : Char} : servesAsMarker c = true ↔ c ∈ marks := by
  have listed : ((List.range 128).map Char.ofNat).filter servesAsMarker = marks := by decide +kernel
  rw [← listed, List.mem_filter]
  constructor
  · intro serves
    have ascii : c.toNat < 128 := Nat.lt_succ_of_le (Marker.small ⟨c, serves⟩)
    exact ⟨List.mem_map.2 ⟨c.toNat, List.mem_range.2 ascii, c.ofNat_toNat⟩, serves⟩
  · exact And.right

namespace Marker

theorem ofText_text (m : Marker) : ofText m.text = .ok m := ofText_eq_ok_iff.2 rfl

theorem string_injective : Function.Injective fun m : Marker => Toml.Value.string m.text := by
  intro m m' same
  have read := ofText_text m
  rw [Toml.Value.string.inj same, ofText_text m'] at read
  exact (Except.ok.inj read).symm

/-- A text that is refused is quoted as it was offered. -/
theorem ofText_of_not_mark {s : String} (noMark : ∀ c ∈ marks, s ≠ String.singleton c) :
    ofText s = .error ⟨s⟩ := by
  unfold ofText
  split
  · rename_i c single
    have offered : s = String.singleton c := String.toList_inj.1 (by simpa using single)
    have refused : ¬ servesAsMarker c = true := fun serves => noMark c (servesAsMarker_iff.1 serves) offered
    rw [ofChar, dif_neg refused, offered]
  · rfl

/-- The byte of a marker is its character. -/
theorem ofNat_byte (m : Marker) : Char.ofNat m.byte.toNat = m.char := by
  have small : m.char.toNat < 256 := Nat.lt_of_le_of_lt m.small (by decide)
  have same : m.byte.toNat = m.char.toNat := Nat.mod_eq_of_lt small
  rw [same, Char.ofNat_toNat]

end Marker

/-! ### One entry -/

/-- The entries that a configuration can have. -/
inductive Config.Fits : String × Toml.Value → Prop where
  | lenient (b : Bool) : Fits ("lenient", .boolean b)
  | marker {c : Char} : c ∈ marks → Fits ("marker", .string (String.singleton c))

/-- What is wrong with an entry: its name, or else the type of its value, or else the value. -/
inductive Misfit.Describes : Misfit → String × Toml.Value → Prop where
  | unknownField {name : String} {v : Toml.Value} : name ≠ "lenient" → name ≠ "marker" →
      Describes (.unknownField name) (name, v)
  | notBoolean {v : Toml.Value} : (∀ b, v ≠ .boolean b) →
      Describes (.wrongType v.wording "a boolean") ("lenient", v)
  | notString {v : Toml.Value} : (∀ s, v ≠ .string s) →
      Describes (.wrongType v.wording "a string") ("marker", v)
  | noMark {s : String} : (∀ c ∈ marks, s ≠ String.singleton c) →
      Describes (.invalidMarker ⟨s⟩) ("marker", .string s)

namespace Config

variable {config : Config} {entry : String × Toml.Value} {entries : Toml.Entries} {fault : Misfit}

/-- An entry that fits is one of the two settings. -/
theorem Fits.setting (fits : Fits entry) :
    (∃ b, entry = ("lenient", .boolean b)) ∨ ∃ m : Marker, entry = ("marker", .string m.text) := by
  cases fits with
  | lenient b => exact .inl ⟨b, rfl⟩
  | @marker c mark => exact .inr ⟨⟨c, servesAsMarker_iff.2 mark⟩, rfl⟩

theorem withEntry_lenient (config : Config) (b : Bool) :
    config.withEntry ("lenient", .boolean b) = .ok { config with lenient := b } := rfl

theorem withEntry_marker (config : Config) (m : Marker) :
    config.withEntry ("marker", .string m.text) = .ok { config with marker := m } := by
  simp only [withEntry, m.ofText_text]

/-- The fault of an entry does not depend on what was decoded before it. -/
theorem withEntry_of_describes (describes : fault.Describes entry) (config : Config) :
    config.withEntry entry = .error fault := by
  cases describes with
  | @unknownField name v notLenient notMarker =>
    unfold withEntry
    split <;> simp_all
  | @notBoolean v other =>
    cases v with
    | boolean b => exact absurd rfl (other b)
    | _ => rfl
  | @notString v other =>
    cases v with
    | string s => exact absurd rfl (other s)
    | _ => rfl
  | noMark noMark => simp only [withEntry, Marker.ofText_of_not_mark noMark]

theorem fits_or_described (entry : String × Toml.Value) : Fits entry ∨ ∃ fault : Misfit, fault.Describes entry := by
  obtain ⟨name, v⟩ := entry
  by_cases isLenient : name = "lenient"
  · subst isLenient
    by_cases boolean : ∃ b, v = .boolean b
    · obtain ⟨b, rfl⟩ := boolean
      exact .inl (.lenient b)
    · exact .inr ⟨_, .notBoolean (not_exists.1 boolean)⟩
  by_cases isMarker : name = "marker"
  · subst isMarker
    by_cases string : ∃ s, v = .string s
    · obtain ⟨s, rfl⟩ := string
      by_cases mark : ∃ c ∈ marks, s = String.singleton c
      · obtain ⟨c, mem, rfl⟩ := mark
        exact .inl (.marker mem)
      · exact .inr ⟨_, .noMark fun c mem offered => mark ⟨c, mem, offered⟩⟩
    · exact .inr ⟨_, .notString (not_exists.1 string)⟩
  · exact .inr ⟨_, .unknownField isLenient isMarker⟩

theorem Fits.decoded (fits : Fits entry) (config : Config) : ∃ config', config.withEntry entry = .ok config' := by
  rcases fits.setting with ⟨b, rfl⟩ | ⟨m, rfl⟩
  · exact ⟨_, withEntry_lenient config b⟩
  · exact ⟨_, withEntry_marker config m⟩

theorem not_fits_of_describes (describes : fault.Describes entry) : ¬ Fits entry := by
  intro fits
  obtain ⟨config, decoded⟩ := fits.decoded {}
  rw [withEntry_of_describes describes] at decoded
  cases decoded

/-! ### All entries -/

theorem foldlM_of_fits (fits : ∀ entry ∈ entries, Fits entry) (config : Config) :
    ∃ config', entries.foldlM Config.withEntry config = .ok config' := by
  induction entries generalizing config with
  | nil => exact ⟨config, rfl⟩
  | cons entry entries ih =>
    obtain ⟨next, decoded⟩ := (fits entry List.mem_cons_self).decoded config
    obtain ⟨config', rest⟩ := ih (fun later mem => fits later (List.mem_cons_of_mem _ mem)) next
    refine ⟨config', ?_⟩
    rw [List.foldlM_cons, decoded]
    exact rest

/-- Behind entries that fit, a fault ends the decoding, whatever follows. -/
theorem foldlM_of_describes {before : Toml.Entries} (fits : ∀ earlier ∈ before, Fits earlier)
    (describes : fault.Describes entry) (after : Toml.Entries) (config : Config) :
    (before ++ entry :: after).foldlM Config.withEntry config = .error fault := by
  obtain ⟨config', decoded⟩ := foldlM_of_fits fits config
  rw [List.foldlM_append, decoded]
  change (entry :: after).foldlM Config.withEntry config' = _
  rw [List.foldlM_cons, withEntry_of_describes describes]
  rfl

theorem fits_or_first_misfit (entries : Toml.Entries) :
    (∀ entry ∈ entries, Fits entry) ∨
      ∃ before entry after, ∃ fault : Misfit, entries = before ++ entry :: after ∧
        (∀ earlier ∈ before, Fits earlier) ∧ fault.Describes entry := by
  induction entries with
  | nil => exact .inl nofun
  | cons first rest ih =>
    rcases fits_or_described first with fits | ⟨fault, describes⟩
    · rcases ih with all | ⟨before, entry, after, fault, rfl, all, describes⟩
      · exact .inl (List.forall_mem_cons.2 ⟨fits, all⟩)
      · exact .inr ⟨first :: before, entry, after, fault, rfl, List.forall_mem_cons.2 ⟨fits, all⟩, describes⟩
    · exact .inr ⟨[], first, rest, fault, rfl, nofun, describes⟩

/-! ### Settings -/

/-- What becomes of a setting: it has the value that entries give under its name, or else the one it had. -/
structure Settles {α : Type} (name : String) (value : α → Toml.Value) (entries : Toml.Entries)
    (initial final : α) : Prop where
  given : ∀ a, (name, value a) ∈ entries → final = a
  unset : name ∉ entries.map Prod.fst → final = initial

namespace Settles

variable {α : Type} {name : String} {value : α → Toml.Value} {initial final : α}

theorem cons_given (injective : value.Injective) {a : α} (fresh : name ∉ entries.map Prod.fst)
    (rest : Settles name value entries a final) : Settles name value ((name, value a) :: entries) initial final where
  given := by
    intro b mem
    rcases List.mem_cons.1 mem with same | later
    · rw [rest.unset fresh]
      exact injective (congrArg Prod.snd same).symm
    · exact rest.given b later
  unset absent := absurd List.mem_cons_self absent

theorem cons_other {other : String} {v : Toml.Value} (differ : name ≠ other)
    (rest : Settles name value entries initial final) :
    Settles name value ((other, v) :: entries) initial final where
  given := by
    intro b mem
    rcases List.mem_cons.1 mem with same | later
    · exact absurd (congrArg Prod.fst same) differ
    · exact rest.given b later
  unset absent := rest.unset fun later => absent (List.mem_cons_of_mem _ later)

/-- The order of the entries makes no difference. -/
theorem unique {final' : α} {entries' : Toml.Entries} (typed : ∀ v, (name, v) ∈ entries → ∃ a, v = value a)
    (settles : Settles name value entries initial final) (settles' : Settles name value entries' initial final')
    (same : entries'.Perm entries) : final = final' := by
  by_cases set : name ∈ entries.map Prod.fst
  · obtain ⟨⟨_, v⟩, mem, rfl⟩ := List.mem_map.1 set
    obtain ⟨a, rfl⟩ := typed v mem
    rw [settles.given a mem, settles'.given a (same.mem_iff.2 mem)]
  · have unset' : name ∉ entries'.map Prod.fst := fun set' => set ((same.map Prod.fst).mem_iff.1 set')
    rw [settles.unset set, settles'.unset unset']

end Settles

/-- What becomes of a configuration. -/
structure Given (initial : Config) (entries : Toml.Entries) (config : Config) : Prop where
  lenient : Settles "lenient" .boolean entries initial.lenient config.lenient
  marker : Settles "marker" (fun m : Marker => .string m.text) entries initial.marker config.marker
  logger : config.logger = initial.logger

/-- Entries that fit are decoded to what they give. -/
theorem given_foldlM {initial : Config} (fits : ∀ entry ∈ entries, Fits entry)
    (distinct : (entries.map Prod.fst).Nodup)
    (decoded : entries.foldlM withEntry initial = .ok config) : Given initial entries config := by
  induction entries generalizing initial with
  | nil =>
    cases decoded
    exact ⟨⟨nofun, fun _ => rfl⟩, ⟨nofun, fun _ => rfl⟩, rfl⟩
  | cons entry entries ih =>
    obtain ⟨fresh, distinctLater⟩ := List.nodup_cons.1 distinct
    have fitsLater (later) (mem : later ∈ entries) := fits later (List.mem_cons_of_mem _ mem)
    rcases (fits entry List.mem_cons_self).setting with ⟨b, rfl⟩ | ⟨m, rfl⟩
    · have rest := ih fitsLater distinctLater decoded
      exact ⟨rest.lenient.cons_given (fun _ _ => Toml.Value.boolean.inj) fresh,
        rest.marker.cons_other (by decide), rest.logger⟩
    · rw [List.foldlM_cons, withEntry_marker] at decoded
      have rest := ih fitsLater distinctLater decoded
      exact ⟨rest.lenient.cons_other (by decide), rest.marker.cons_given Marker.string_injective fresh, rest.logger⟩

/-- What fitting entries give does not depend on their order. -/
theorem Given.unique {initial config' : Config} {entries' : Toml.Entries} (fits : ∀ entry ∈ entries, Fits entry)
    (given : Given initial entries config) (given' : Given initial entries' config')
    (same : entries'.Perm entries) : config = config' := by
  have lenient : config.lenient = config'.lenient := by
    refine given.lenient.unique (fun v mem => ?_) given'.lenient same
    rcases (fits _ mem).setting with ⟨b, setting⟩ | ⟨m, setting⟩
    · exact ⟨b, congrArg Prod.snd setting⟩
    · have named : "lenient" = "marker" := congrArg Prod.fst setting
      exact absurd named (by decide)
  have marker : config.marker = config'.marker := by
    refine given.marker.unique (fun v mem => ?_) given'.marker same
    rcases (fits _ mem).setting with ⟨b, setting⟩ | ⟨m, setting⟩
    · have named : "marker" = "lenient" := congrArg Prod.fst setting
      exact absurd named (by decide)
    · exact ⟨m, congrArg Prod.snd setting⟩
  have logger : config.logger = config'.logger := given.logger.trans given'.logger.symm
  cases config
  cases config'
  simp only [mk.injEq]
  exact ⟨lenient, marker, logger⟩

end Config

/-- **Which entries are decoded.**  Take any entries that give every name once.  They are a configuration exactly
if each of them is a setting with a value that it can have: leniency is a boolean, and a marker is a text of one
punctuation character other than a brace.  The configuration has the values that are given, and otherwise it is
strict and its marker is `@`; it never has a logger, and the order of the entries makes no difference.  Entries of
any other kind are refused for the first that does not fit, with the fault of that one, whatever stands behind it.
Whoever reads documents, the entries at the top of one give every name once, and the document is decoded as they
are.  Markers are what is read of such characters, given as such or as texts; they are the character and the text
that they are read from, and keep them as a byte. -/
theorem ofEntries_decodes (entries : Toml.Entries) (distinct : (entries.map Prod.fst).Nodup) :
    ((∃ config, Config.ofEntries entries = .ok config) ↔ ∀ entry ∈ entries, Config.Fits entry) ∧
    (∀ config, Config.ofEntries entries = .ok config →
      (∀ b, ("lenient", .boolean b) ∈ entries → config.lenient = b) ∧
      ("lenient" ∉ entries.map Prod.fst → config.lenient = false) ∧
      (∀ s, ("marker", .string s) ∈ entries → s = String.singleton config.marker.char) ∧
      ("marker" ∉ entries.map Prod.fst → config.marker.char = '@') ∧
      config.logger = none ∧
      ∀ entries', entries'.Perm entries → Config.ofEntries entries' = .ok config) ∧
    (∀ fault, Config.ofEntries entries = .error fault →
      ∃ before entry after, entries = before ++ entry :: after ∧ (∀ earlier ∈ before, Config.Fits earlier) ∧
        ¬ Config.Fits entry ∧ fault.Describes entry ∧
        ∀ after', Config.ofEntries (before ++ entry :: after') = .error fault) ∧
    (∀ (reader : Toml.DocumentReader) text document, reader.read? text = some document →
      (document.map Prod.fst).Nodup ∧ Config.ofText reader text = (Config.ofEntries document).mapError .misfit) ∧
    (∀ c m, Marker.ofChar c = .ok m ↔ c ∈ marks ∧ m.char = c) ∧
    (∀ s m, Marker.ofText s = .ok m ↔ ∃ c ∈ marks, s = String.singleton c ∧ m.char = c) ∧
    ∀ m : Marker, m.char ∈ marks ∧ m.text = String.singleton m.char ∧ Marker.ofText m.text = .ok m ∧
      Char.ofNat m.byte.toNat = m.char := by
  have fits_of_decoded {config : Config} (decoded : Config.ofEntries entries = .ok config) :
      ∀ entry ∈ entries, Config.Fits entry := by
    rcases Config.fits_or_first_misfit entries with fits | ⟨before, entry, after, fault, rfl, fits, describes⟩
    · exact fits
    · have refused : Config.ofEntries _ = _ := Config.foldlM_of_describes fits describes after {}
      rw [refused] at decoded
      cases decoded
  refine ⟨?accepted, ?given, ?refused, ?documents, ?chars, ?texts, ?markers⟩
  case accepted =>
    constructor
    · rintro ⟨config, decoded⟩
      exact fits_of_decoded decoded
    · intro fits
      exact Config.foldlM_of_fits fits {}
  case given =>
    intro config decoded
    have fits := fits_of_decoded decoded
    have given := Config.given_foldlM fits distinct decoded
    refine ⟨given.lenient.given, given.lenient.unset, ?_, ?_, given.logger, ?_⟩
    · intro s mem
      rcases (fits _ mem).setting with ⟨b, setting⟩ | ⟨m, setting⟩
      · cases (congrArg Prod.snd setting : Toml.Value.string s = .boolean b)
      · obtain rfl : s = m.text := Toml.Value.string.inj (congrArg Prod.snd setting)
        rw [given.marker.given m mem]
        rfl
    · intro unset
      rw [given.marker.unset unset]
      rfl
    · intro entries' same
      have fits' : ∀ entry ∈ entries', Config.Fits entry := fun entry mem => fits entry (same.mem_iff.1 mem)
      obtain ⟨config', decoded'⟩ := Config.foldlM_of_fits fits' {}
      have distinct' := ((same.map Prod.fst).nodup_iff).2 distinct
      rw [given.unique fits (Config.given_foldlM fits' distinct' decoded') same]
      exact decoded'
  case refused =>
    intro fault refused
    rcases Config.fits_or_first_misfit entries with fits | ⟨before, entry, after, fault', rfl, fits, describes⟩
    · obtain ⟨config, decoded⟩ := Config.foldlM_of_fits fits {}
      cases decoded.symm.trans refused
    · have first (after' : Toml.Entries) : Config.ofEntries (before ++ entry :: after') = .error fault' :=
        Config.foldlM_of_describes fits describes after' {}
      cases (first after).symm.trans refused
      exact ⟨before, entry, after, rfl, fits, Config.not_fits_of_describes describes, describes, first⟩
  case documents =>
    intro reader text document read
    refine ⟨reader.nodup read, ?_⟩
    rw [Config.ofText, read]
  case chars =>
    intro c m
    rw [Marker.ofChar_eq_ok_iff, servesAsMarker_iff]
  case texts =>
    intro s m
    rw [Marker.ofText_eq_ok_iff]
    constructor
    · rintro rfl
      exact ⟨m.char, servesAsMarker_iff.1 m.serves, rfl, rfl⟩
    · rintro ⟨c, -, rfl, same⟩
      rw [same]
  case markers =>
    intro m
    exact ⟨servesAsMarker_iff.1 m.serves, rfl, m.ofText_text, m.ofNat_byte⟩

/-- A document and its entries the other way round, and a marker that is one in its low byte only. -/
theorem ofEntries_decodes_low_byte :
    let text := "marker = \"$\"\nlenient = true\n"
    let entries : Toml.Entries := [("marker", .string "$"), ("lenient", .boolean true)]
    let refused : Toml.Entries := [("lenient", .boolean false), ("marker", .string "ġ"), ("logger", .integer 1)]
    let config : Config := { lenient := true, marker := ⟨'$', rfl⟩ }
    let fault : Misfit := .invalidMarker ⟨"ġ"⟩
    (entries.map Prod.fst).Nodup ∧ (∀ entry ∈ entries, Config.Fits entry) ∧
      Config.ofEntries entries.reverse = .ok config ∧
      Toml.Document.reader.read? text = some entries ∧ Config.ofText Toml.Document.reader text = .ok config ∧
      (refused.map Prod.fst).Nodup ∧
      ∃ before entry after, refused = before ++ entry :: after ∧ ¬ Config.Fits entry ∧ fault.Describes entry ∧
        ∀ after', Config.ofEntries (before ++ entry :: after') = .error fault := by
  intro text entries refused config fault
  have distinct : (entries.map Prod.fst).Nodup := by decide
  have distinct' : (refused.map Prod.fst).Nodup := by decide
  have read : Toml.Document.reader.read? text = some entries := by
    change Toml.Document.read? text = some entries
    cbv
  have decoded : Config.ofEntries entries = .ok config := by cbv
  have failed : Config.ofEntries refused = .error fault := by cbv
  obtain ⟨accepted, given, -, documents, -⟩ := ofEntries_decodes entries distinct
  obtain ⟨-, -, first, -⟩ := ofEntries_decodes refused distinct'
  obtain ⟨-, -, -, -, -, order⟩ := given config decoded
  obtain ⟨before, entry, after, split, -, misfits, describes, whatever⟩ := first fault failed
  refine ⟨distinct, accepted.1 ⟨config, decoded⟩, order _ entries.reverse_perm, read, ?_, distinct', ?_⟩
  · rw [(documents Toml.Document.reader text entries read).2, decoded]
    rfl
  · exact ⟨before, entry, after, split, misfits, describes, whatever⟩

end TextTemplate
