import TokenAuthority.Proofs.Settings.Failure
import TokenAuthority.Proofs.Text.CodePoint

/-!
Keys in settings.

A key is given inline or by the path of a file.  Octets and texts are taken as inline keys, and so
are numbers that stand for octets; any other value breaks the reading off, and so do a text with
surrogates and a count of more octets than there can be.  Of items the first one that is no octet
decides how.  A path is a text of characters and octets without the null character.  What is read
may be a key of an algorithm that is not known, which is not told as a fault of the settings either.
-/

namespace TokenAuthority

section Lists

variable {α β ε : Type} {step : α → Except ε β}

/-- A list of steps fails with the first step that fails. -/
theorem mapM_eq_error_iff {items : List α} {failure : ε} :
    items.mapM step = .error failure ↔
      ∃ before item after, items = before ++ item :: after ∧
        (∀ earlier ∈ before, ∃ value, step earlier = .ok value) ∧ step item = .error failure := by
  induction items with
  | nil =>
      constructor
      · intro failed
        cases failed
      · rintro ⟨before, item, after, isSplit, -⟩
        simp at isSplit
  | cons first rest inductionHypothesis =>
      rw [List.mapM_cons]
      constructor
      · intro failed
        rcases of_bind_eq_error failed with failsNow | ⟨value, computed, failsLater⟩
        · exact ⟨[], first, rest, rfl, by simp, failsNow⟩
        · rcases of_bind_eq_error failsLater with restFails | ⟨values, -, isDone⟩
          · obtain ⟨before, item, after, rfl, succeed, fails⟩ := inductionHypothesis.mp restFails
            refine ⟨first :: before, item, after, rfl, ?_, fails⟩
            intro earlier membership
            rcases List.mem_cons.mp membership with rfl | later
            · exact ⟨value, computed⟩
            · exact succeed earlier later
          · cases isDone
      · rintro ⟨before, item, after, isSplit, succeed, fails⟩
        cases before with
        | nil =>
            obtain ⟨rfl, rfl⟩ := List.cons.inj isSplit
            rw [fails]
            rfl
        | cons earliest others =>
            obtain ⟨rfl, rfl⟩ := List.cons.inj isSplit
            obtain ⟨value, computed⟩ := succeed first List.mem_cons_self
            have restFails := inductionHypothesis.mpr
              ⟨others, item, after, rfl,
                fun earlier later => succeed earlier (List.mem_cons_of_mem _ later), fails⟩
            rw [computed, ok_bind, restFails]
            rfl

end Lists

theorem Utf8.encode?_eq_none_iff (text : Text) :
    Utf8.encode? text = none ↔ text.isEncodable = false := by
  rw [Utf8.encode?, Option.map_eq_none_iff, Text.string?_eq_none_iff]

namespace Settings

variable {machine : Machine} {failure : SettingsFailure}

/-! ### Inline keys -/

/-- How an item breaks off that it is taken as an octet. -/
inductive UnfitItem : Json → SettingsFailure → Prop
  | noOctet {value : Int} (outside : value < 0 ∨ 256 ≤ value) : UnfitItem (.int value) .badValue
  | noNumber {item : Json} (noInteger : ∀ value, item ≠ .int value)
      (noTruth : ∀ value, item ≠ .bool value) : UnfitItem item .wrongKind

/-- How a setting breaks off that it is taken as the octets of a key. -/
inductive UnfitOctets (machine : Machine) : Setting → SettingsFailure → Prop
  | unencodable {text : Text} (unencodable : text.isEncodable = false) :
      UnfitOctets machine (.value (.text text)) .unencodable
  | float (number : Binary64) : UnfitOctets machine (.value (.float number)) .wrongKind
  | object (members : List (Text × Json)) :
      UnfitOctets machine (.value (.object members)) .wrongKind
  | negative {count : Int} (counts : -0x8000_0000_0000_0000 ≤ count) (negative : count < 0) :
      UnfitOctets machine (.value (.int count)) .badValue
  | uncountable {count : Int}
      (beyond : count < -0x8000_0000_0000_0000 ∨ octetCountLimit < count) :
      UnfitOctets machine (.value (.int count)) .outOfRange
  /-- The octets that are counted do not fit into memory. -/
  | tooMany {count : Int} (notNegative : 0 ≤ count) (counts : count ≤ octetCountLimit)
      (beyond : machine.octets < count) : UnfitOctets machine (.value (.int count)) .outOfMemory
  | item {before after : List Json} {item : Json} {failure : SettingsFailure}
      (areOctets : ∀ earlier ∈ before, ∃ octet, octetOfItem earlier = .ok octet)
      (unfit : UnfitItem item failure) :
      UnfitOctets machine (.value (.array (before ++ item :: after))) failure

theorem octetOfItem_eq_error_iff {item : Json} :
    octetOfItem item = .error failure ↔ UnfitItem item failure := by
  constructor
  · intro failed
    cases item with
    | int value =>
        simp only [octetOfItem] at failed
        split at failed
        · cases failed
        · next outside =>
            cases failed
            exact .noOctet (by omega)
    | bool value => cases failed
    | _ =>
        cases failed
        exact .noNumber (by simp) (by simp)
  · intro unfit
    cases unfit with
    | noOctet outside => exact if_neg (by omega)
    | noNumber noInteger noTruth =>
        cases item with
        | int value => exact absurd rfl (noInteger value)
        | bool value => exact absurd rfl (noTruth value)
        | _ => rfl

theorem mapM_octetOfItem_eq_error_iff {items : List Json} :
    items.mapM octetOfItem = .error failure ↔
      UnfitOctets machine (.value (.array items)) failure := by
  rw [mapM_eq_error_iff]
  constructor
  · rintro ⟨before, item, after, rfl, areOctets, fails⟩
    exact .item areOctets (octetOfItem_eq_error_iff.mp fails)
  · intro unfit
    cases unfit with
    | item areOctets unfit =>
        exact ⟨_, _, _, rfl, areOctets, octetOfItem_eq_error_iff.mpr unfit⟩

theorem UnfitItem.not_isConfig {item : Json} (unfit : UnfitItem item failure) :
    ¬failure.IsConfig := by
  cases unfit <;> exact SettingsFailure.not_isConfig nofun

theorem UnfitOctets.not_isConfig {setting : Setting} (unfit : UnfitOctets machine setting failure) :
    ¬failure.IsConfig := by
  cases unfit with
  | item _ unfit => exact unfit.not_isConfig
  | _ => exact SettingsFailure.not_isConfig nofun

theorem keyOctets_int_eq_error_iff {count : Int} :
    keyOctets machine (.value (.int count)) = .error failure ↔
      UnfitOctets machine (.value (.int count)) failure := by
  simp only [keyOctets]
  constructor
  · intro failed
    split at failed
    · next beyond =>
        cases failed
        exact .uncountable beyond
    · next countable =>
        obtain ⟨least, greatest⟩ := not_or.mp countable
        split at failed
        · next negative =>
            cases failed
            exact .negative (Int.not_lt.mp least) negative
        · next notNegative =>
            split at failed
            · next beyond =>
                cases failed
                exact .tooMany (Int.not_lt.mp notNegative) (Int.not_lt.mp greatest) beyond
            · cases failed
  · intro unfit
    cases unfit with
    | negative counts negative =>
        have countable : ¬(count < -0x8000_0000_0000_0000 ∨ octetCountLimit < count) := by
          unfold octetCountLimit
          omega
        rw [if_neg countable, if_pos negative]
    | uncountable beyond => rw [if_pos beyond]
    | tooMany notNegative counts beyond =>
        have countable : ¬(count < -0x8000_0000_0000_0000 ∨ octetCountLimit < count) := by omega
        rw [if_neg countable, if_neg (Int.not_lt.mpr notNegative), if_pos beyond]

theorem keyOctets_text_eq_error_iff {text : Text} :
    keyOctets machine (.value (.text text)) = .error failure ↔
      UnfitOctets machine (.value (.text text)) failure := by
  simp only [keyOctets]
  cases octets : Utf8.encode? text with
  | some encoded =>
      refine ⟨nofun, fun unfit => ?_⟩
      cases unfit with
      | unencodable unencodable =>
          rw [(Utf8.encode?_eq_none_iff text).mpr unencodable] at octets
          cases octets
  | none =>
      constructor
      · rintro ⟨⟩
        exact .unencodable ((Utf8.encode?_eq_none_iff text).mp octets)
      · rintro ⟨⟩
        rfl

/-- When and how an inline key that is set is not taken. -/
theorem keyOctets_eq_error_iff {setting : Setting} (isSet : setting.isUnset = false) :
    keyOctets machine setting = .error failure ↔ UnfitOctets machine setting failure := by
  cases setting with
  | raw octets => exact ⟨nofun, nofun⟩
  | value json =>
      cases json with
      | null => cases isSet
      | bool value => exact ⟨nofun, nofun⟩
      | text value => exact keyOctets_text_eq_error_iff
      | int count => exact keyOctets_int_eq_error_iff
      | array items => exact mapM_octetOfItem_eq_error_iff
      | float number =>
          constructor
          · rintro ⟨⟩
            exact .float number
          · rintro ⟨⟩
            rfl
      | object members =>
          constructor
          · rintro ⟨⟩
            exact .object members
          · rintro ⟨⟩
            rfl

/-! ### Paths -/

/-- How a setting breaks off that it is taken as the path of a file. -/
inductive UnfitPath (setting : Setting) : SettingsFailure → Prop
  | noText (noText : setting.text? = none) : UnfitPath setting .wrongKind
  | noPath {path : Text} {code : Text.CodePoint} (isText : setting.text? = some path)
      (holds : code ∈ path) (outside : FilePath.isPathCode code = false) :
      UnfitPath setting .unencodable
  | nullCharacter {path : Text} (isText : setting.text? = some path)
      (isPath : ∀ code ∈ path, FilePath.isPathCode code = true)
      (holds : .char '\x00' ∈ path) : UnfitPath setting .badValue

theorem UnfitPath.not_isConfig {setting : Setting} (unfit : UnfitPath setting failure) :
    ¬failure.IsConfig := by
  cases unfit <;> exact SettingsFailure.not_isConfig nofun

theorem keyPath_eq {setting : Setting} :
    keyPath setting = match setting.text? with
      | some path =>
          if !path.all FilePath.isPathCode then .error .unencodable
          else if path.contains (.char '\x00') then .error .badValue
          else .ok path
      | none => .error .wrongKind := by
  cases setting with
  | raw octets => rfl
  | value json => cases json <;> rfl

theorem keyPath_eq_error_iff {setting : Setting} :
    keyPath setting = .error failure ↔ UnfitPath setting failure := by
  rw [keyPath_eq]
  cases isText : setting.text? with
  | none =>
      constructor
      · rintro ⟨⟩
        exact .noText isText
      · intro unfit
        cases unfit with
        | noText => rfl
        | noPath isAlsoText => simp [isText] at isAlsoText
        | nullCharacter isAlsoText => simp [isText] at isAlsoText
  | some path =>
      dsimp only
      constructor
      · intro failed
        split at failed
        · next noPath =>
            cases failed
            obtain ⟨code, holds, outside⟩ := List.all_eq_false.mp (Bool.not_eq_true' _ ▸ noPath)
            exact .noPath isText holds (Bool.eq_false_iff.mpr outside)
        · next isPath =>
            split at failed
            · next holds =>
                cases failed
                exact .nullCharacter isText (by simpa using isPath) (List.contains_iff_mem.mp holds)
            · cases failed
      · intro unfit
        cases unfit with
        | noText noText => simp [isText] at noText
        | noPath isAlsoText holds outside =>
            obtain rfl := Option.some.inj (isText.symm.trans isAlsoText)
            have noPath : path.all FilePath.isPathCode = false :=
              List.all_eq_false.mpr ⟨_, holds, by simp [outside]⟩
            rw [noPath]
            rfl
        | nullCharacter isAlsoText isPath holds =>
            obtain rfl := Option.some.inj (isText.symm.trans isAlsoText)
            rw [List.all_eq_true.mpr isPath, List.contains_iff_mem.mpr holds]
            rfl

/-! ### Sources -/

/-- How the source of a key breaks the reading off.  A path counts only without an inline key. -/
inductive UnfitSource (machine : Machine) (settings : Settings) (role : KeyRole) :
    SettingsFailure → Prop
  | inline {setting : Setting} {failure : SettingsFailure}
      (given : settings.findSet? role.inlineName = some setting)
      (unfit : UnfitOctets machine setting failure) : UnfitSource machine settings role failure
  | path {setting : Setting} {failure : SettingsFailure}
      (notInline : settings.findSet? role.inlineName = none)
      (given : settings.findSet? role.fileName = some setting)
      (unfit : UnfitPath setting failure) : UnfitSource machine settings role failure

variable {settings : Settings} {files : FileTree} {role : KeyRole}

theorem escapes_readKey_iff :
    Escapes (settings.readKey machine files role) failure ↔
      UnfitSource machine settings role failure := by
  unfold readKey
  cases inline : settings.findSet? role.inlineName with
  | some setting =>
      dsimp only
      constructor
      · rintro ⟨failed, -⟩
        exact .inline inline ((keyOctets_eq_error_iff (isUnset_of_findSet? inline)).mp failed)
      · intro unfit
        cases unfit with
        | inline given unfit =>
            obtain rfl := Option.some.inj (inline.symm.trans given)
            exact ⟨(keyOctets_eq_error_iff (isUnset_of_findSet? inline)).mpr unfit,
              unfit.not_isConfig⟩
        | path notInline => simp [inline] at notInline
  | none =>
      dsimp only
      cases given : settings.findSet? role.fileName with
      | none =>
          refine iff_of_false (not_escapes_refuse _) ?_
          intro unfit
          cases unfit with
          | inline isGiven => simp [inline] at isGiven
          | path _ isGiven => simp [given] at isGiven
      | some setting =>
          dsimp only
          rw [escapes_bind_iff]
          constructor
          · rintro (⟨failed, -⟩ | ⟨path, -, escapes⟩)
            · exact .path inline given (keyPath_eq_error_iff.mp failed)
            · split at escapes
              · exact absurd escapes (not_escapes_ok _)
              · exact absurd escapes (not_escapes_refuse _)
          · intro unfit
            cases unfit with
            | inline isGiven => simp [inline] at isGiven
            | path _ isGiven unfit =>
                obtain rfl := Option.some.inj (given.symm.trans isGiven)
                exact .inl ⟨keyPath_eq_error_iff.mpr unfit, unfit.not_isConfig⟩

/-! ### Keys -/

/-- How a key breaks the reading off: its source does, or what is read is not supported. -/
inductive UnfitKey (machine : Machine) (settings : Settings) (files : FileTree) (role : KeyRole)
    (Unsupported : Octets → Prop) : SettingsFailure → Prop
  | source {failure : SettingsFailure} (unfit : UnfitSource machine settings role failure) :
      UnfitKey machine settings files role Unsupported failure
  | unsupported {octets : Octets} (isRead : settings.readKey machine files role = .ok octets)
      (unsupported : Unsupported octets) :
      UnfitKey machine settings files role Unsupported .unsupportedKey

theorem acceptKey_eq_ok_iff {α : Type} {loaded : Except Key.LoadError α} {key : α} :
    acceptKey role loaded = .ok key ↔ loaded = .ok key := by
  cases loaded with
  | ok found => simp [acceptKey]
  | error error => cases error <;> simp [acceptKey, refuse]

theorem escapes_acceptKey_iff {α : Type} {loaded : Except Key.LoadError α} :
    Escapes (acceptKey role loaded) failure ↔
      loaded = .error .unsupported ∧ failure = .unsupportedKey := by
  cases loaded with
  | ok key => simpa [acceptKey] using not_escapes_ok key
  | error error =>
      cases error with
      | unsupported => simpa [acceptKey] using escapes_error_iff .unsupportedKey nofun
      | unreadable => simpa [acceptKey] using not_escapes_refuse _
      | locked => simpa [acceptKey] using not_escapes_refuse _
      | notRsa => simpa [acceptKey] using not_escapes_refuse _

/-- The key of a role, as a loader makes it of the octets that are read. -/
def key {α : Type} (machine : Machine) (settings : Settings) (files : FileTree) (role : KeyRole)
    (load : Octets → Except Key.LoadError α) : Except SettingsFailure α := do
  acceptKey role (load (← settings.readKey machine files role))

theorem escapes_key_iff {α : Type} {load : Octets → Except Key.LoadError α}
    {Unsupported : Octets → Prop}
    (unsupported_iff : ∀ octets, load octets = .error .unsupported ↔ Unsupported octets) :
    Escapes (settings.key machine files role load) failure ↔
      UnfitKey machine settings files role Unsupported failure := by
  unfold key
  rw [escapes_bind_iff, escapes_readKey_iff]
  constructor
  · rintro (unfit | ⟨octets, isRead, escapes⟩)
    · exact .source unfit
    · obtain ⟨unsupported, rfl⟩ := escapes_acceptKey_iff.mp escapes
      exact .unsupported isRead ((unsupported_iff octets).mp unsupported)
  · intro unfit
    cases unfit with
    | source unfit => exact .inl unfit
    | unsupported isRead unsupported =>
        have notLoaded := (unsupported_iff _).mpr unsupported
        exact .inr ⟨_, isRead, escapes_acceptKey_iff.mpr ⟨notLoaded, rfl⟩⟩

/-- A key that is taken was loaded from octets. -/
theorem exists_load_of_key {α : Type} {load : Octets → Except Key.LoadError α} {found : α}
    (accepted : settings.key machine files role load = .ok found) :
    ∃ octets, load octets = .ok found := by
  obtain ⟨octets, -, isAccepted⟩ := exists_of_bind_eq_ok accepted
  exact ⟨octets, acceptKey_eq_ok_iff.mp isAccepted⟩

end Settings

end TokenAuthority
