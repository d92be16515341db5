import SealedContent.Program.Run
import SealedContent.Proofs.Toml.WrittenDocument

/-!
Settings that were read once are written so that they read back. Their numbers came from a document,
so a document can hold them; and each section is read from the values that are written for it.
-/

namespace SealedContent.Config

open Toml (Value WrittenSection Scalar IsBareName)
open Toml.Lexeme (integerBound isPlain)
open Program (Action World)

section Given

variable {α : Type} {given : Option Value}

/-- A number is held by a document, or it is a standard one. -/
theorem given?_natural_small (held : ∀ value ∈ given, value.IsHeld) {standard number : Nat}
    (small : standard < integerBound) (found : given? natural? standard given = some number) :
    number < integerBound := by
  cases given with
  | none =>
      cases found
      exact small
  | some value =>
      cases held value rfl with
      | integer below =>
          rw [given?, natural?] at found
          split at found
          · cases found
            omega
          · cases found
      | _ => cases found

theorem sectionValues?_held {names : List String} {value : Value} (held : value.IsHeld)
    {values : List (Option Value)} (found : sectionValues? names value = some values) :
    ∀ given ∈ values, ∀ value ∈ given, value.IsHeld := by
  cases held with
  | array held =>
      cases found
      intro given member value present
      obtain ⟨⟨name, index⟩, -, rfl⟩ := List.mem_map.mp member
      exact held value (List.mem_of_getElem? present)
  | table held =>
      cases found
      intro given member value present
      obtain ⟨name, -, rfl⟩ := List.mem_map.mp member
      exact Toml.holds_of_lookup held present
  | _ => cases found

/-- A section has a property that its standard values have and that every value read for it has. -/
theorem section?_of_read {α : Type} {property : α → Prop} {read : α → Value → Option α}
    {standard : α} (usual : property standard)
    (reads : ∀ value, value.IsHeld → ∀ found, read standard value = some found → property found)
    {name : String} {fields : List (String × Value)} (held : ∀ field ∈ fields, field.2.IsHeld)
    {found : α} (taken : section? read standard name fields = some found) :
    property found := by
  rw [section?] at taken
  cases present : fields.lookup name with
  | none =>
      rw [present] at taken
      cases taken
      exact usual
  | some value =>
      rw [present] at taken
      exact reads value (Toml.holds_of_lookup held present) found taken

end Given

/-- The numbers of the section can be written in a document. -/
def Gateway.IsHeld (gateway : Gateway) : Prop :=
  gateway.timeoutSeconds < integerBound ∧ gateway.maxResponseBytes < integerBound

def KeyService.IsHeld (service : KeyService) : Prop :=
  service.timeoutSeconds < integerBound

def Encryption.IsHeld (encryption : Encryption) : Prop :=
  encryption.chunkSize < integerBound

structure Settings.IsHeld (settings : Settings) : Prop where
  gateway : settings.gateway.IsHeld
  keyService : settings.keyService.IsHeld
  encryption : settings.encryption.IsHeld

section Sections

variable {value : Value}

theorem gateway?_held {standard gateway : Gateway} (usual : standard.IsHeld) (held : value.IsHeld)
    (found : gateway? standard value = some gateway) : gateway.IsHeld := by
  obtain ⟨values, given, found⟩ := Option.bind_eq_some_iff.mp found
  have small := sectionValues?_held held given
  split at found
  case h_1 url tls timeout limit =>
    obtain ⟨_, -, found⟩ := Option.bind_eq_some_iff.mp found
    obtain ⟨_, -, found⟩ := Option.bind_eq_some_iff.mp found
    obtain ⟨seconds, timed, found⟩ := Option.bind_eq_some_iff.mp found
    obtain ⟨bytes, limited, same⟩ := Option.bind_eq_some_iff.mp found
    cases same
    exact ⟨given?_natural_small (small timeout (by simp)) usual.1 timed,
      given?_natural_small (small limit (by simp)) usual.2 limited⟩
  case h_2 => cases found

theorem keyService?_held {standard service : KeyService} (usual : standard.IsHeld)
    (held : value.IsHeld) (found : keyService? standard value = some service) :
    service.IsHeld := by
  obtain ⟨values, given, found⟩ := Option.bind_eq_some_iff.mp found
  have small := sectionValues?_held held given
  split at found
  case h_1 url did insecure timeout =>
    obtain ⟨_, -, found⟩ := Option.bind_eq_some_iff.mp found
    obtain ⟨_, -, found⟩ := Option.bind_eq_some_iff.mp found
    obtain ⟨_, -, found⟩ := Option.bind_eq_some_iff.mp found
    obtain ⟨seconds, timed, same⟩ := Option.bind_eq_some_iff.mp found
    cases same
    exact given?_natural_small (small timeout (by simp)) usual timed
  case h_2 => cases found

theorem encryption?_held {standard encryption : Encryption} (usual : standard.IsHeld)
    (held : value.IsHeld) (found : encryption? standard value = some encryption) :
    encryption.IsHeld := by
  obtain ⟨values, given, found⟩ := Option.bind_eq_some_iff.mp found
  have small := sectionValues?_held held given
  split at found
  case h_1 cipher size =>
    obtain ⟨_, -, found⟩ := Option.bind_eq_some_iff.mp found
    obtain ⟨bytes, sized, same⟩ := Option.bind_eq_some_iff.mp found
    cases same
    exact given?_natural_small (small size (by simp)) usual sized
  case h_2 => cases found

end Sections

namespace Settings

variable {settings : Settings}

theorem standard_held : standard.IsHeld where
  gateway := ⟨by decide, by decide⟩
  keyService := show standard.keyService.timeoutSeconds < integerBound by decide
  encryption := show standard.encryption.chunkSize < integerBound by decide

theorem ofFields?_held {fields : List (String × Value)} (held : ∀ field ∈ fields, field.2.IsHeld)
    (found : ofFields? fields = some settings) : settings.IsHeld := by
  obtain ⟨_, -, found⟩ := Option.bind_eq_some_iff.mp found
  obtain ⟨gateway, reached, found⟩ := Option.bind_eq_some_iff.mp found
  obtain ⟨service, trusted, found⟩ := Option.bind_eq_some_iff.mp found
  obtain ⟨encryption, sealedWith, found⟩ := Option.bind_eq_some_iff.mp found
  obtain ⟨_, -, same⟩ := Option.bind_eq_some_iff.mp found
  cases same
  have usual := standard_held
  constructor
  · exact section?_of_read usual.gateway (fun _ small _ => gateway?_held usual.gateway small) held
      reached
  · exact section?_of_read usual.keyService (fun _ small _ => keyService?_held usual.keyService small)
      held trusted
  · exact section?_of_read usual.encryption
      (fun _ small _ => encryption?_held usual.encryption small) held sealedWith

theorem optionalField_names (name : String) (value : Option String) :
    ((optionalField name value).map Prod.fst).Sublist [name] := by
  cases value with
  | none => exact List.nil_sublist _
  | some text => exact List.Sublist.refl _

theorem optionalField_held (name : String) (value : Option String) :
    ∀ field ∈ optionalField name value, field.2.value.IsHeld := by
  intro field member
  obtain ⟨text, -, rfl⟩ := List.mem_map.mp member
  exact .string text

/-- The sections with the names of all their fields. -/
def sectionNames : List (String × List String) :=
  [("logging", ["level", "format"]),
    ("gateway", ["url", "enforce_tls", "timeout_secs", "max_response_bytes"]),
    ("kms", ["url", "service_did", "allow_insecure_http", "timeout_secs"]),
    ("crypto", ["cipher", "chunk_size"]),
    ("identity", ["issuer_did", "signing_key_file", "space_did", "proof_file"])]

theorem sectionNames_sound : ∀ entry ∈ sectionNames,
    (∀ name ∈ entry.1 :: entry.2, IsBareName name) ∧ entry.2.Nodup := by
  decide

/-- Only fields of the identity are ever left out. -/
theorem sections_listed (settings : Settings) : ∀ part ∈ settings.sections,
    ∃ names, (part.name, names) ∈ sectionNames ∧ (part.fields.map Prod.fst).Sublist names := by
  simp only [sections, List.forall_mem_cons, List.not_mem_nil, false_implies, implies_true, and_true]
  refine ⟨⟨_, .head _, List.Sublist.refl _⟩, ⟨_, .tail _ (.head _), List.Sublist.refl _⟩,
    ⟨_, .tail _ (.tail _ (.head _)), List.Sublist.refl _⟩,
    ⟨_, .tail _ (.tail _ (.tail _ (.head _))), List.Sublist.refl _⟩,
    ⟨_, .tail _ (.tail _ (.tail _ (.tail _ (.head _)))), ?identity⟩⟩
  case identity =>
    simp only [List.map_append]
    exact (((optionalField_names _ _).append (optionalField_names _ _)).append
      (optionalField_names _ _)).append (optionalField_names _ _)

theorem sections_held (held : settings.IsHeld) :
    ∀ part ∈ settings.sections, ∀ field ∈ part.fields, field.2.value.IsHeld := by
  obtain ⟨reached, trusted, sealedWith⟩ := held
  simp only [sections, List.forall_mem_cons, List.forall_mem_append, List.not_mem_nil, false_implies,
    implies_true, and_true]
  refine ⟨⟨.string _, .string _⟩, ⟨.string _, .boolean _, ?timeout, ?limit⟩,
    ⟨.string _, .string _, .boolean _, ?service⟩, ⟨.string _, ?size⟩, ?identity⟩
  case timeout => exact .integer (Int.ofNat_lt.mpr reached.1)
  case limit => exact .integer (Int.ofNat_lt.mpr reached.2)
  case service => exact .integer (Int.ofNat_lt.mpr trusted)
  case size => exact .integer (Int.ofNat_lt.mpr sealedWith)
  case identity =>
    exact ⟨⟨⟨optionalField_held _ _, optionalField_held _ _⟩, optionalField_held _ _⟩,
      optionalField_held _ _⟩

/-- Every section can be written without quotes round its names, and without a name standing twice. -/
theorem sections_sound (held : settings.IsHeld) : ∀ part ∈ settings.sections, part.IsSound := by
  intro part member
  obtain ⟨names, known, listed⟩ := sections_listed settings part member
  obtain ⟨bare, distinct⟩ := sectionNames_sound (part.name, names) known
  exact .of_names listed bare distinct (sections_held held part member)

theorem sections_distinct (settings : Settings) :
    (settings.sections.map WrittenSection.name).Nodup := by
  have names : settings.sections.map WrittenSection.name =
      ["logging", "gateway", "kms", "crypto", "identity"] := rfl
  rw [names]
  decide

/-- What is read back for the sections gives the settings again. -/
theorem ofFields?_sections (settings : Settings) :
    ofFields? (settings.sections.map fun part => (part.name, part.value)) = some settings := by
  obtain ⟨logging, gateway, service, ⟨cipher, size⟩, ⟨issuer, key, space, proof⟩⟩ := settings
  generalize written : (Settings.sections _).map (fun part => (part.name, part.value)) = fields
  have logged : section? logging? standard.logging "logging" fields = some logging := by
    rw [← written]
    rfl
  have reached : section? gateway? standard.gateway "gateway" fields = some gateway := by
    rw [← written]
    rfl
  have trusted : section? keyService? standard.keyService "kms" fields = some service := by
    rw [← written]
    rfl
  have sealedWith : section? encryption? standard.encryption "crypto" fields =
      some ⟨cipher, size⟩ := by
    rw [← written]
    cases cipher <;> rfl
  have owned : section? identity? standard.identity "identity" fields =
      some ⟨issuer, key, space, proof⟩ := by
    rw [← written]
    cases issuer <;> cases key <;> cases space <;> cases proof <;> rfl
  rw [ofFields?, logged, reached, trusted, sealedWith, owned]
  rfl

/-- The text of all settings from a writer that can refuse. -/
def toText? (settings : Settings) : Option String :=
  Toml.writeDocument? settings.sections

theorem toText?_eq (held : settings.IsHeld) : settings.toText? = some settings.toText :=
  Toml.writeDocument?_eq (sections_held held)

/-- Settings that are valid and that a document can hold are read from the text written for them. -/
theorem ofText_toText (held : settings.IsHeld) (valid : settings.validate = .ok ()) :
    ofText settings.toText = .ok settings := by
  rw [ofText, toText, Toml.read?_writeDocument (sections_sound held) (sections_distinct settings),
    Option.bind_some, ofFields?_sections]
  simp only [valid]

/-- So they are under a line of comment. -/
theorem ofText_commented (held : settings.IsHeld) (valid : settings.validate = .ok ())
    {comment : List Char} (plain : ∀ char ∈ comment, isPlain char = true) :
    ofText (String.ofList ('#' :: (comment ++ '\n' :: settings.toText.toList))) = .ok settings := by
  rw [ofText, toText, Toml.read?_commented (sections_sound held) (sections_distinct settings) plain,
    Option.bind_some, ofFields?_sections]
  simp only [valid]

theorem ofText_accepted {text : String} (accepted : ofText text = .ok settings) :
    settings.IsHeld ∧ settings.validate = .ok () := by
  rw [ofText] at accepted
  split at accepted
  case h_1 => cases accepted
  case h_2 read =>
    obtain ⟨fields, document, given⟩ := Option.bind_eq_some_iff.mp read
    split at accepted
    · cases accepted
    case h_2 valid =>
      cases accepted
      exact ⟨ofFields?_held (Toml.read?_held document) given, valid⟩

theorem showSettings_eq {σ : Type} (path : String) (settings : Settings) :
    (Action.showSettings path settings : Action σ String) = pure (String.ofList
      ('#' :: (" config: ".toList ++ path.toList ++ '\n' :: settings.toText.toList))) := by
  rw [Action.showSettings]
  congr 1
  change "# config: " ++ path ++ "\n" ++ settings.toText = _
  rw [String.ext_iff, String.toList_ofList]
  simp

/-- Settings that were accepted have a text, no number being too large for it, and they are read again,
unchanged, from what is shown for them. The path of their file stands above them in a comment, which a
control character in the path would end. -/
theorem shown_reads_back {text : String} (accepted : ofText text = .ok settings) :
    settings.toText? = some settings.toText ∧ ofText settings.toText = .ok settings ∧
      ∀ {σ : Type} (world : World σ) (path : String), (∀ char ∈ path.toList, isPlain char = true) →
        ∃ shown, Action.showSettings path settings world = .ok shown world ∧
          ofText shown = .ok settings := by
  obtain ⟨held, valid⟩ := ofText_accepted accepted
  refine ⟨toText?_eq held, ofText_toText held valid, ?_⟩
  intro σ world path plain
  have comment : ∀ char ∈ " config: ".toList ++ path.toList, isPlain char = true :=
    List.forall_mem_append.mpr ⟨List.all_eq_true.mp (by decide), plain⟩
  rw [showSettings_eq]
  exact ⟨_, rfl, ofText_commented held valid comment⟩

theorem inline_settings_read_back :
    let text := "crypto = [\x7b aes-cbc = [] \x7d, 0x1000]\nidentity.space_did = \"did:key:a\\nb\""
    let settings : Settings := { standard with
      encryption := ⟨.aesCbc, 4096⟩
      identity := ⟨none, none, some "did:key:a\nb", none⟩ }
    ofText text = .ok settings ∧ settings.toText? = some settings.toText ∧
      ofText settings.toText = .ok settings ∧
      ∃ shown, (Action.showSettings "ecup.toml" settings : Action Unit String)
        ⟨⟨fun _ => none, []⟩, ()⟩ = .ok shown ⟨⟨fun _ => none, []⟩, ()⟩ ∧
          ofText shown = .ok settings := by
  intro text settings
  have accepted : ofText text = .ok settings := by decide +kernel
  obtain ⟨writes, reads, shows⟩ := shown_reads_back accepted
  exact ⟨accepted, writes, reads, shows _ "ecup.toml" (List.all_eq_true.mp (by decide))⟩

end Settings

end SealedContent.Config
