import TokenAuthority.Proofs.Json.RoundTrip
import TokenAuthority.User.Snapshot

/-!
Forms that are read as they were written, and what the form of a user must say.

An object tells about a user when it names them and gives each of the other members as a text or
not at all.  Any other value is refused, and the refusal names each member that is to blame once.
What else an object carries is never looked at.
-/

namespace TokenAuthority

namespace Form

variable {members others : List (Text × Json)} {name text : Text}

theorem requiredText_eq_ok_iff :
    requiredText members name = .ok text ↔
      Json.lookup? name members = some (.text text) ∧ text ≠ [] := by
  unfold requiredText
  cases Json.lookup? name members with
  | none => simp
  | some value =>
      cases value with
      | text other =>
          by_cases isEmpty : other = []
          · simp only [isEmpty]
            constructor
            · intro refused
              cases refused
            · rintro ⟨same, nonempty⟩
              cases same
              exact absurd rfl nonempty
          · have notEmpty : other.isEmpty = false := by simpa using isEmpty
            simp only [notEmpty, Bool.false_eq_true, if_false, Except.ok.injEq, Option.some.injEq,
              Json.text.injEq]
            constructor
            · rintro rfl
              exact ⟨rfl, isEmpty⟩
            · exact fun same => same.1
      | _ => simp

/-- Whether a member is a given text, which is empty when there is no such member. -/
def GivesText (members : List (Text × Json)) (name text : Text) : Prop :=
  Json.lookup? name members = some (.text text) ∨ Json.lookup? name members = none ∧ text = []

theorem optionalText_eq_ok_iff :
    optionalText members name = .ok text ↔ GivesText members name text := by
  unfold optionalText GivesText
  cases Json.lookup? name members with
  | none => simp [eq_comm]
  | some value =>
      cases value with
      | text other => simp
      | _ => simp

/-- What is wrong with a value that has to be a text. -/
inductive IsNoText : Json → MemberProblem → Prop where
  | null : IsNoText .null .null
  | other {value : Json} (present : value ≠ .null) (differs : ∀ text, value ≠ .text text) :
      IsNoText value .notText

theorem optionalText_eq_error_iff {problem : MemberProblem} :
    optionalText members name = .error problem ↔
      ∃ value, Json.lookup? name members = some value ∧ IsNoText value problem := by
  unfold optionalText
  cases Json.lookup? name members with
  | none => simp
  | some value =>
      simp only [Option.some.injEq, exists_eq_left']
      constructor
      · intro refused
        cases value with
        | null =>
            cases refused
            exact .null
        | text other => cases refused
        | _ =>
            cases refused
            exact .other Json.noConfusion fun _ => Json.noConfusion
      · intro isNoText
        cases isNoText with
        | null => rfl
        | other present differs =>
            cases value with
            | null => exact absurd rfl present
            | text other => exact absurd rfl (differs other)
            | _ => rfl

theorem requiredText_eq_error_iff {problem : MemberProblem} :
    requiredText members name = .error problem ↔
      Json.lookup? name members = none ∧ problem = .absent ∨
        Json.lookup? name members = some (.text []) ∧ problem = .tooShort ∨
        ∃ value, Json.lookup? name members = some value ∧ IsNoText value problem := by
  rw [← optionalText_eq_error_iff]
  unfold requiredText optionalText
  cases Json.lookup? name members with
  | none => simp [eq_comm]
  | some value =>
      cases value with
      | text other =>
          by_cases isEmpty : other = []
          · simp [isEmpty, eq_comm (a := MemberProblem.tooShort)]
          · simp [isEmpty]
      | _ => simp

theorem requiredText_congr (same : Json.lookup? name members = Json.lookup? name others) :
    requiredText members name = requiredText others name := by
  unfold requiredText
  rw [same]

theorem optionalText_congr (same : Json.lookup? name members = Json.lookup? name others) :
    optionalText members name = optionalText others name := by
  unfold optionalText
  rw [same]

theorem mem_problem?_iff {result : Except MemberProblem Text} {blamed : Text}
    {problem : MemberProblem} :
    (blamed, problem) ∈ problem? name result ↔ blamed = name ∧ result = .error problem := by
  cases result with
  | ok text => simp [problem?]
  | error found =>
      unfold problem?
      rw [List.mem_singleton, Prod.mk.injEq, Except.error.injEq, eq_comm (a := found)]

/-- A member is blamed at most once. -/
theorem map_fst_problem?_sublist (name : Text) (result : Except MemberProblem Text) :
    ((problem? name result).map Prod.fst).Sublist [name] := by
  cases result with
  | ok text => exact List.nil_sublist _
  | error found => exact List.Sublist.refl _

end Form

/-! ### Requests for rotation -/

/-- Whether a value is an object whose only member is a given refresh token. -/
def IsRotationForm (value : Json) (token : Text) : Prop :=
  ∃ members, value = .object members ∧ (∀ member ∈ members, member.1 = refreshTokenMember) ∧
    Json.lookup? refreshTokenMember members = some (.text token) ∧ token ≠ ""

/-- A request for rotation is read exactly if it has the form of one. -/
theorem loadRotationRequest_eq_ok_iff {value : Json} {token : Text} :
    loadRotationRequest value = .ok token ↔ IsRotationForm value token := by
  unfold IsRotationForm
  cases value with
  | object members =>
      have noOthers : (members.filter fun member => member.1 ≠ refreshTokenMember).map
          (fun member => (member.1, MemberProblem.unknown)) = [] ↔
          ∀ member ∈ members, member.1 = refreshTokenMember := by
        simp
      unfold loadRotationRequest
      simp only
      constructor
      · intro loaded
        split at loaded
        · next text required none =>
            cases loaded
            obtain ⟨found, nonempty⟩ := Form.requiredText_eq_ok_iff.mp required
            exact ⟨members, rfl, noOthers.mp none, found, nonempty⟩
        · cases loaded
      · rintro ⟨others, isObject, alone, found, nonempty⟩
        cases isObject
        rw [Form.requiredText_eq_ok_iff.mpr ⟨found, nonempty⟩, noOthers.mpr alone]
  | _ => simp [loadRotationRequest]

/-! ### Users -/

namespace UserSnapshot

/-- A user whose identifier is not empty is read back from the form that tells all about them. -/
theorem load_dump {user : UserSnapshot} (named : user.id ≠ []) : load user.dump = .ok user := by
  unfold load dump ofMembers
  simp [Form.requiredText, Form.optionalText, Json.lookup?, named]

/-- The user whose texts are those of another one, with their surrogates joined. -/
def joined (user : UserSnapshot) : UserSnapshot :=
  ⟨user.id.join, user.email.join, user.username.join, user.imageUrl.join, user.website.join⟩

/-- Whether no text about a user holds a high surrogate right before a low one. -/
structure IsUnpaired (user : UserSnapshot) : Prop where
  id : user.id.IsUnpaired
  email : user.email.IsUnpaired
  username : user.username.IsUnpaired
  imageUrl : user.imageUrl.IsUnpaired
  website : user.website.IsUnpaired

theorem joined_eq_self_iff {user : UserSnapshot} : user.joined = user ↔ user.IsUnpaired := by
  obtain ⟨id, email, username, imageUrl, website⟩ := user
  simp only [joined, UserSnapshot.mk.injEq, Text.join_eq_self_iff]
  constructor
  · rintro ⟨isId, isEmail, isUsername, isImage, isWebsite⟩
    exact ⟨isId, isEmail, isUsername, isImage, isWebsite⟩
  · rintro ⟨isId, isEmail, isUsername, isImage, isWebsite⟩
    exact ⟨isId, isEmail, isUsername, isImage, isWebsite⟩

theorem joined_dump (user : UserSnapshot) : Json.joined user.dump = user.joined.dump := by
  simp [dump, joined]

theorem isReadable_dump (user : UserSnapshot) (depth : Nat) :
    Json.IsReadable (depth + 1) user.dump := by
  unfold dump
  simp [Json.IsReadable, Json.AllMembersReadable, Json.MemberReadable, Json.joinedNames]

/-! ### What an object has to say -/

/-- The members that an object may leave out. -/
def optionalNames : List Text :=
  ["email", "username", "imageURL", "website"]

/-- The members that are looked at. -/
def memberNames : List Text :=
  "uid" :: optionalNames

/-- Whether an object tells about a user. -/
structure Tells (members : List (Text × Json)) (user : UserSnapshot) : Prop where
  id : Json.lookup? "uid" members = some (.text user.id)
  named : user.id ≠ []
  email : Form.GivesText members "email" user.email
  username : Form.GivesText members "username" user.username
  imageUrl : Form.GivesText members "imageURL" user.imageUrl
  website : Form.GivesText members "website" user.website

/-- What a value is to be blamed for that tells about nobody, by member. -/
inductive Blames : Json → Text → MemberProblem → Prop where
  | notAnObject {value : Json} (differs : ∀ members, value ≠ .object members) :
      Blames value "_schema" .notAnObject
  | absent {members : List (Text × Json)} (missing : Json.lookup? "uid" members = none) :
      Blames (.object members) "uid" .absent
  | tooShort {members : List (Text × Json)}
      (isEmpty : Json.lookup? "uid" members = some (.text [])) :
      Blames (.object members) "uid" .tooShort
  | noText {members : List (Text × Json)} {name : Text} {value : Json}
      {problem : MemberProblem} (known : name ∈ memberNames)
      (found : Json.lookup? name members = some value) (isNoText : Form.IsNoText value problem) :
      Blames (.object members) name problem

variable {members others : List (Text × Json)} {user : UserSnapshot}

/-- All that is wrong with an object. -/
def problemsOf (members : List (Text × Json)) : FormProblems :=
  Form.problem? "uid" (Form.requiredText members "uid") ++
    optionalNames.flatMap fun name => Form.problem? name (Form.optionalText members name)

theorem ofMembers_eq_ok_iff : ofMembers members = .ok user ↔ Tells members user := by
  have read : ofMembers members = .ok user ↔
      Form.requiredText members "uid" = .ok user.id ∧
        Form.optionalText members "email" = .ok user.email ∧
        Form.optionalText members "username" = .ok user.username ∧
        Form.optionalText members "imageURL" = .ok user.imageUrl ∧
        Form.optionalText members "website" = .ok user.website := by
    unfold ofMembers
    constructor
    · intro loaded
      dsimp only at loaded
      split at loaded
      · next id email username imageUrl website hasId hasEmail hasUsername hasImage hasWebsite =>
          cases loaded
          exact ⟨hasId, hasEmail, hasUsername, hasImage, hasWebsite⟩
      · cases loaded
    · rintro ⟨hasId, hasEmail, hasUsername, hasImage, hasWebsite⟩
      simp only [hasId, hasEmail, hasUsername, hasImage, hasWebsite]
  rw [read, Form.requiredText_eq_ok_iff]
  simp only [Form.optionalText_eq_ok_iff]
  constructor
  · rintro ⟨⟨id, named⟩, email, username, imageUrl, website⟩
    exact ⟨id, named, email, username, imageUrl, website⟩
  · rintro ⟨id, named, email, username, imageUrl, website⟩
    exact ⟨⟨id, named⟩, email, username, imageUrl, website⟩

/-- An object that tells about nobody is refused for all that is wrong with it. -/
theorem ofMembers_of_not_tells (tellsNobody : ∀ user, ¬Tells members user) :
    ofMembers members = .error (problemsOf members) := by
  cases loaded : ofMembers members with
  | ok user => exact absurd (ofMembers_eq_ok_iff.mp loaded) (tellsNobody user)
  | error problems =>
      unfold ofMembers at loaded
      dsimp only at loaded
      split at loaded
      · cases loaded
      · cases loaded
        simp only [problemsOf, optionalNames, List.flatMap_cons, List.flatMap_nil,
          List.append_assoc, List.append_nil]

theorem mem_problemsOf_iff {name : Text} {problem : MemberProblem} :
    (name, problem) ∈ problemsOf members ↔ Blames (.object members) name problem := by
  unfold problemsOf
  rw [List.mem_append, List.mem_flatMap]
  simp only [Form.mem_problem?_iff, Form.requiredText_eq_error_iff, Form.optionalText_eq_error_iff]
  constructor
  · rintro (⟨rfl, ⟨missing, rfl⟩ | ⟨isEmpty, rfl⟩ | ⟨value, found, isNoText⟩⟩ |
      ⟨_, known, rfl, value, found, isNoText⟩)
    · exact .absent missing
    · exact .tooShort isEmpty
    · exact .noText List.mem_cons_self found isNoText
    · exact .noText (List.mem_cons_of_mem _ known) found isNoText
  · intro blames
    cases blames with
    | notAnObject differs => exact absurd rfl (differs members)
    | absent missing => exact .inl ⟨rfl, .inl ⟨missing, rfl⟩⟩
    | tooShort isEmpty => exact .inl ⟨rfl, .inr (.inl ⟨isEmpty, rfl⟩)⟩
    | noText known found isNoText =>
        cases known with
        | head => exact .inl ⟨rfl, .inr (.inr ⟨_, found, isNoText⟩)⟩
        | tail _ known => exact .inr ⟨name, known, rfl, _, found, isNoText⟩

/-- An object is blamed for members that are looked at only. -/
theorem Blames.known {name : Text} {problem : MemberProblem}
    (blames : Blames (.object members) name problem) : name ∈ memberNames := by
  cases blames with
  | notAnObject differs => exact absurd rfl (differs members)
  | absent => exact List.mem_cons_self
  | tooShort => exact List.mem_cons_self
  | noText known => exact known

theorem nodup_map_fst_problemsOf (members : List (Text × Json)) :
    ((problemsOf members).map Prod.fst).Nodup := by
  have sublist : ((problemsOf members).map Prod.fst).Sublist memberNames := by
    unfold problemsOf
    rw [List.map_append, List.map_flatMap]
    show List.Sublist _ ([("uid" : Text)] ++ optionalNames)
    refine (Form.map_fst_problem?_sublist _ _).append ?_
    induction optionalNames with
    | nil => exact List.Sublist.refl _
    | cons name names inductionHypothesis =>
        rw [List.flatMap_cons]
        exact (Form.map_fst_problem?_sublist _ _).append inductionHypothesis
  exact sublist.nodup (by decide)

theorem ofMembers_congr
    (agree : ∀ name ∈ memberNames, Json.lookup? name members = Json.lookup? name others) :
    ofMembers members = ofMembers others := by
  have optional : ∀ name ∈ optionalNames,
      Form.optionalText members name = Form.optionalText others name :=
    fun name known => Form.optionalText_congr (agree name (List.mem_cons_of_mem _ known))
  unfold ofMembers
  rw [Form.requiredText_congr (agree "uid" List.mem_cons_self), optional "email" (by decide),
    optional "username" (by decide), optional "imageURL" (by decide),
    optional "website" (by decide)]

theorem load_eq_ok_iff {value : Json} :
    load value = .ok user ↔ ∃ members, value = .object members ∧ Tells members user := by
  cases value with
  | object members => simpa [load] using ofMembers_eq_ok_iff
  | _ => simp [load]

theorem load_of_not_object {value : Json} (differs : ∀ members, value ≠ .object members) :
    load value = .error .notAnObject := by
  cases value with
  | object members => exact absurd rfl (differs members)
  | _ => rfl

theorem mem_notAnObject_iff {value : Json} (differs : ∀ members, value ≠ .object members)
    {name : Text} {problem : MemberProblem} :
    (name, problem) ∈ FormProblems.notAnObject ↔ Blames value name problem := by
  constructor
  · intro membership
    cases List.mem_singleton.mp membership
    exact .notAnObject differs
  · intro blames
    cases blames with
    | notAnObject => exact List.mem_singleton.mpr rfl
    | _ => exact absurd rfl (differs _)

/-- A value that tells about nobody is refused for what it is to be blamed for, each member once. -/
theorem load_of_not_tells {value : Json}
    (tellsNobody : ¬∃ members user, value = .object members ∧ Tells members user) :
    ∃ problems, load value = .error problems ∧ (problems.map Prod.fst).Nodup ∧
      ∀ name problem, (name, problem) ∈ problems ↔ Blames value name problem := by
  by_cases isObject : ∃ members, value = .object members
  · obtain ⟨members, rfl⟩ := isObject
    have nobody : ∀ user, ¬Tells members user :=
      fun user tells => tellsNobody ⟨members, user, rfl, tells⟩
    exact ⟨_, ofMembers_of_not_tells nobody, nodup_map_fst_problemsOf members,
      fun _ _ => mem_problemsOf_iff⟩
  · have differs : ∀ members, value ≠ .object members :=
      fun members same => isObject ⟨members, same⟩
    exact ⟨_, load_of_not_object differs, by decide, fun _ _ => mem_notAnObject_iff differs⟩

/-- A value is read exactly if it is an object that tells about a user, who is then returned.  Any
other value is refused for exactly what it is to be blamed for, each member once.  Objects that
agree on the members that are looked at are read alike, and a user is read back from their form. -/
theorem load_characterized :
    (∀ value user, load value = .ok user ↔
      ∃ members, value = .object members ∧ Tells members user) ∧
    (∀ value, (¬∃ members user, value = .object members ∧ Tells members user) →
      ∃ problems, load value = .error problems ∧ (problems.map Prod.fst).Nodup ∧
        ∀ name problem, (name, problem) ∈ problems ↔ Blames value name problem) ∧
    (∀ members others,
      (∀ name ∈ memberNames, Json.lookup? name members = Json.lookup? name others) →
        load (.object members) = load (.object others)) ∧
    ∀ user : UserSnapshot, user.id ≠ [] → load user.dump = .ok user :=
  ⟨fun _ _ => load_eq_ok_iff, fun _ => load_of_not_tells, fun _ _ => ofMembers_congr,
    fun _ => load_dump⟩

/-! ### A sample -/

/-- What tells about a user, and something else that is not looked at. -/
def sampleMembers : List (Text × Json) :=
  [("uid", .text "u1"), ("email", .text "a@b.c"), ("password", .text "hunter2")]

/-- What tells about nobody, for three reasons. -/
def faultyMembers : List (Text × Json) :=
  [("id", .text "u1"), ("email", .null), ("website", .int 5)]

theorem not_tells_faultyMembers (user : UserSnapshot) : ¬Tells faultyMembers user := by
  intro tells
  have missing : Json.lookup? "uid" faultyMembers = none := by simp [faultyMembers, Json.lookup?]
  cases missing.symm.trans tells.id

theorem load_samples :
    load (.object sampleMembers) = .ok { id := "u1", email := "a@b.c" } ∧
      load (.object sampleMembers) = load (.object (sampleMembers.take 2)) ∧
      (∃ problems, load (.object faultyMembers) = .error problems ∧
        (("uid" : Text), .absent) ∈ problems ∧ (("email" : Text), .null) ∈ problems ∧
        (("website" : Text), .notText) ∈ problems ∧
        ∀ problem, (("id" : Text), problem) ∉ problems) ∧
      load (dump { id := "u1", website := "w" }) = .ok { id := "u1", website := "w" } := by
  obtain ⟨read, refused, alike, readBack⟩ := load_characterized
  refine ⟨?_, ?_, ?_, readBack _ (by decide)⟩
  · refine (read _ _).mpr ⟨_, rfl, ?_⟩
    exact
      { id := by simp [sampleMembers, Json.lookup?]
        named := by decide
        email := .inl (by simp [sampleMembers, Json.lookup?])
        username := .inr (by simp [sampleMembers, Json.lookup?])
        imageUrl := .inr (by simp [sampleMembers, Json.lookup?])
        website := .inr (by simp [sampleMembers, Json.lookup?]) }
  · apply alike
    simp [memberNames, optionalNames, sampleMembers, Json.lookup?]
  · have nobody : ¬∃ members user, Json.object faultyMembers = .object members ∧
        Tells members user := by
      rintro ⟨_, user, same, tells⟩
      cases same
      exact not_tells_faultyMembers user tells
    obtain ⟨problems, isRefused, -, blamed⟩ := refused _ nobody
    refine ⟨problems, isRefused, ?_, ?_, ?_, ?_⟩
    · exact (blamed _ _).mpr (.absent (by simp [faultyMembers, Json.lookup?]))
    · have found : Json.lookup? "email" faultyMembers = some .null := by
        simp [faultyMembers, Json.lookup?]
      exact (blamed _ _).mpr (.noText (by decide) found .null)
    · have found : Json.lookup? "website" faultyMembers = some (.int 5) := by
        simp [faultyMembers, Json.lookup?]
      exact (blamed _ _).mpr
        (.noText (by decide) found (.other Json.noConfusion fun _ => Json.noConfusion))
    · intro problem membership
      exact absurd ((blamed _ _).mp membership).known (by decide)

end UserSnapshot

end TokenAuthority
