import Mathlib.Data.List.Forall2
import PlaybackRules.Rule
import PlaybackRules.Session
import PlaybackRules.User
import PlaybackRules.Proofs.WrittenMoment

/-!
# Records that are read again

Readers take numerals, words and timestamps for what they plainly stand for, so a record is not
always written as it was read.  But what is written reads back: reading is a projection
(`Reader.IsProjection`).  A session and a user read back whatever they hold; a rule reads back if it
was read before, since a name that is kept as unknown must be the name of no field.

What a rule was read from is still there in it, in every group (`Rule.Keeps`): each threshold
with its exact type, each known name as its field, and each unknown name letter for letter.
-/

namespace PlaybackRules

/-! ## Readings that succeed -/

namespace Checked

variable {α β : Type} {a : Checked α}

theorem map_eq_ok_iff {f : α → β} {y : β} : f <$> a = ok y ↔ ∃ x, a = ok x ∧ f x = y := by
  cases a with
  | ok x =>
      show ok (f x) = ok y ↔ _
      simp
  | faulty faults => exact ⟨nofun, nofun⟩

theorem seq_eq_ok_iff {f : Checked (α → β)} {y : β} :
    f <*> a = ok y ↔ ∃ g x, f = ok g ∧ a = ok x ∧ g x = y := by
  cases f with
  | ok g =>
      cases a with
      | ok x =>
          show ok (g x) = ok y ↔ _
          simp
      | faulty faults => exact ⟨nofun, nofun⟩
  | faulty first =>
      cases a with
      | ok x => exact ⟨nofun, nofun⟩
      | faulty second => exact ⟨nofun, nofun⟩

theorem under_eq_ok_iff {step : Step} {x : α} : a.under step = ok x ↔ a = ok x := by
  cases a with
  | ok y => exact Iff.rfl
  | faulty faults => exact ⟨nofun, nofun⟩

theorem ofOption_eq_ok_iff {kind : FaultKind} {found : Option α} {x : α} :
    ofOption kind found = ok x ↔ found = some x := by
  cases found with
  | none => exact ⟨nofun, nofun⟩
  | some y =>
      show ok y = ok x ↔ _
      simp

theorem map_ok {x : α} (f : α → β) (h : a = ok x) : f <$> a = ok (f x) :=
  map_eq_ok_iff.2 ⟨x, h, rfl⟩

theorem seq_ok {f : Checked (α → β)} {g : α → β} {x : α} (hf : f = ok g) (ha : a = ok x) :
    f <*> a = ok (g x) :=
  seq_eq_ok_iff.2 ⟨g, x, hf, ha, rfl⟩

theorem items_go_eq_ok_iff {read : β → Checked α} :
    ∀ {members : List β} {index : Nat} {xs : List α},
      items.go read index members = ok xs ↔
        List.Forall₂ (fun member x => read member = ok x) members xs
  | [], index, xs => by
      rw [List.forall₂_nil_left_iff, eq_comm]
      show ok xs = ok [] ↔ _
      simp
  | member :: members, index, xs => by
      have hcons : items.go read index (member :: members) =
          List.cons <$> (read member).under (.item index) <*>
            items.go read (index + 1) members := rfl
      rw [hcons, seq_eq_ok_iff, List.forall₂_cons_left_iff]
      constructor
      · rintro ⟨_, rest, hmember, hrest, rfl⟩
        obtain ⟨x, hx, rfl⟩ := map_eq_ok_iff.1 hmember
        exact ⟨x, rest, under_eq_ok_iff.1 hx, items_go_eq_ok_iff.1 hrest, rfl⟩
      · rintro ⟨x, rest, hx, hrest, rfl⟩
        exact ⟨List.cons x, rest, map_ok _ (under_eq_ok_iff.2 hx), items_go_eq_ok_iff.2 hrest, rfl⟩

/-- A list is read if each of its members is. -/
theorem items_eq_ok_iff {read : β → Checked α} {members : List β} {xs : List α} :
    items read members = ok xs ↔ List.Forall₂ (fun member x => read member = ok x) members xs :=
  items_go_eq_ok_iff

end Checked

namespace Reader

variable {α : Type} {read : Reader α} {write : α → Value} {entries : Entries} {key : String} {x : α}

theorem record_eq_ok_iff {read : Entries → Checked α} {value : Value} :
    record read value = .ok x ↔ ∃ entries, value = .object entries ∧ read entries = .ok x := by
  cases value with
  | object entries =>
      show read entries = .ok x ↔ _
      simp
  | null | bool | int | float | str | list => exact ⟨nofun, nofun⟩

theorem list_eq_ok_iff {value : Value} {xs : List α} :
    list read value = .ok xs ↔
      ∃ items, value = .list items ∧ List.Forall₂ (fun item x => read item = .ok x) items xs := by
  cases value with
  | list items =>
      show Checked.items read items = .ok xs ↔ _
      simp [Checked.items_eq_ok_iff]
  | null | bool | int | float | str | object => exact ⟨nofun, nofun⟩

theorem required_eq_ok_iff :
    required key read entries = .ok x ↔
      ∃ value, entries.get? key = some value ∧ read value = .ok x := by
  unfold required
  cases entries.get? key with
  | none => exact ⟨nofun, nofun⟩
  | some value =>
      show (read value).under _ = _ ↔ _
      simp [Checked.under_eq_ok_iff]

theorem optional_eq_ok_iff {default : α} :
    optional key read default entries = .ok x ↔
      (entries.get? key).elim (default = x) fun value => read value = .ok x := by
  unfold optional
  cases entries.get? key with
  | none =>
      show Checked.ok default = .ok x ↔ default = x
      simp
  | some value => exact Checked.under_eq_ok_iff

theorem nullable_eq_ok_iff {value : Value} {found : Option α} (h : value ≠ .null) :
    nullable read value = .ok found ↔ ∃ x, read value = .ok x ∧ some x = found := by
  cases value with
  | null => exact absurd rfl h
  | bool | int | float | str | list | object => exact Checked.map_eq_ok_iff

theorem required_of_get? {value : Value} (hget : entries.get? key = some value)
    (h : read value = .ok x) : required key read entries = .ok x :=
  required_eq_ok_iff.2 ⟨value, hget, h⟩

theorem optional_of_get? {default : α} {value : Value} (hget : entries.get? key = some value)
    (h : read value = .ok x) : optional key read default entries = .ok x := by
  rw [optional_eq_ok_iff, hget]
  exact h

/-- What is written for a value that may be missing reads back if the value does. -/
theorem nullable_ofOption (write : α → Value) (hnull : ∀ x, write x ≠ .null) :
    ∀ {found : Option α}, (∀ x ∈ found, read (write x) = .ok x) →
      nullable read (.ofOption write found) = .ok found
  | none, _ => rfl
  | some x, h => (nullable_eq_ok_iff (hnull x)).2 ⟨x, h x rfl, rfl⟩

theorem nullable_str (found : Option String) : nullable string (.ofOption .str found) = .ok found :=
  nullable_ofOption .str (fun _ => nofun) fun _ _ => rfl

theorem nullable_int (found : Option Int) : nullable int (.ofOption .int found) = .ok found :=
  nullable_ofOption .int (fun _ => nofun) fun _ _ => rfl

theorem nullable_float (found : Option Binary64) :
    nullable float (.ofOption .float found) = .ok found :=
  nullable_ofOption .float (fun _ => nofun) fun _ _ => rfl

end Reader

/-! ## Sessions and users -/

open Checked Reader

theorem VideoDetails.read_write (details : VideoDetails) : read details.write = .ok details := by
  cases details
  refine seq_ok (seq_ok (map_ok _ ?_) ?_) ?_
  all_goals exact optional_of_get? rfl (nullable_int _)

theorem nullable_videoDetails (found : Option VideoDetails) :
    nullable VideoDetails.read (.ofOption VideoDetails.write found) = .ok found :=
  nullable_ofOption VideoDetails.write (fun _ => nofun) fun details _ => details.read_write

/-- Every session reads back. -/
theorem Session.read_write (session : Session) : read session.write = .ok session := by
  cases session
  repeat refine seq_ok ?_ ?_
  · exact map_ok _ (required_of_get? rfl rfl)
  · exact optional_of_get? rfl rfl
  · exact required_of_get? rfl rfl
  · exact required_of_get? rfl (moment_ofMoment _)
  iterate 2 exact optional_of_get? rfl rfl
  iterate 2 exact optional_of_get? rfl (nullable_float _)
  iterate 8 exact optional_of_get? rfl (nullable_str _)
  · exact optional_of_get? rfl rfl
  iterate 2 exact optional_of_get? rfl (nullable_str _)
  iterate 3 exact optional_of_get? rfl (nullable_int _)
  iterate 2 exact optional_of_get? rfl (nullable_videoDetails _)

/-- Every user reads back. -/
theorem User.read_write (user : User) : read user.write = .ok user := by
  cases user
  repeat refine seq_ok ?_ ?_
  · exact map_ok _ (required_of_get? rfl rfl)
  iterate 2 exact optional_of_get? rfl rfl
  · exact required_of_get? rfl (moment_ofMoment _)
  · exact optional_of_get? rfl
      (nullable_ofOption Value.ofMoment (fun _ => nofun) fun m _ => moment_ofMoment m)

/-! ## Fields, operators and thresholds -/

theorem Field.ofName?_name (field : Field) : ofName? field.name = some field := by
  cases field <;> rfl

theorem Field.ofName?_eq_some_iff {name : String} {field : Field} :
    ofName? name = some field ↔ field.name = name := by
  constructor
  · intro h
    unfold ofName? at h
    have hname := List.find?_some h
    exact beq_iff_eq.1 hname
  · rintro rfl
    exact field.ofName?_name

theorem Operator.ofName?_name (operator : Operator) : ofName? operator.name = some operator := by
  cases operator <;> rfl

theorem FieldName.ofString_eq_known_iff {name : String} {field : Field} :
    ofString name = known field ↔ field.name = name := by
  rw [← Field.ofName?_eq_some_iff]
  unfold ofString
  cases Field.ofName? name with
  | none => exact ⟨nofun, nofun⟩
  | some found => simp

theorem FieldName.text_ofString (name : String) : (ofString name).text = name := by
  unfold ofString
  cases hfield : Field.ofName? name with
  | none => rfl
  | some field => exact Field.ofName?_eq_some_iff.1 hfield

theorem FieldName.read_eq_ok_iff {value : Value} {field : FieldName} :
    read value = .ok field ↔ ∃ name, value = .str name ∧ ofString name = field := by
  cases value with
  | str name =>
      show Checked.ok (ofString name) = .ok field ↔ _
      simp
  | null | bool | int | float | list | object => exact ⟨nofun, nofun⟩

theorem Scalar.ofValue?_eq_some_iff {value : Value} {scalar : Scalar} :
    ofValue? value = some scalar ↔ value = scalar.toValue := by
  cases value <;> cases scalar <;> simp [ofValue?, toValue]

theorem Scalar.mapM_ofValue?_eq_some_iff {values : List Value} {scalars : List Scalar} :
    values.mapM ofValue? = some scalars ↔ values = scalars.map toValue := by
  simp only [Text.mapM_eq_some_iff, ofValue?_eq_some_iff, ← List.forall₂_map_right_iff,
    List.forall₂_eq_eq_eq]

namespace Threshold

theorem ofValue?_toValue (threshold : Threshold) : ofValue? threshold.toValue = some threshold := by
  cases threshold with
  | scalar s => cases s <;> rfl
  | list scalars =>
      show ((scalars.map Scalar.toValue).mapM Scalar.ofValue?).map list = _
      rw [Scalar.mapM_ofValue?_eq_some_iff.2 rfl]
      rfl

/-- A threshold is read from the very value that it is written as. -/
theorem read_eq_ok_iff {value : Value} {threshold : Threshold} :
    read value = .ok threshold ↔ value = threshold.toValue := by
  refine ofOption_eq_ok_iff.trans ⟨fun h => ?_, fun h => h ▸ threshold.ofValue?_toValue⟩
  cases value with
  | list values =>
      obtain ⟨scalars, hscalars, rfl⟩ := Option.map_eq_some_iff.1 h
      exact congrArg Value.list (Scalar.mapM_ofValue?_eq_some_iff.1 hscalars)
  | null | bool | int | float | str | object =>
      simp only [ofValue?] at h
      obtain ⟨scalar, hscalar, rfl⟩ := Option.map_eq_some_iff.1 h
      exact Scalar.ofValue?_eq_some_iff.1 hscalar

/-- A threshold that is not there is null. -/
theorem toValue_eq_of_optional {key : String} {entries : Entries} {threshold : Threshold}
    (h : optional key read (.scalar .null) entries = .ok threshold) :
    threshold.toValue = (entries.get? key).getD .null := by
  rw [optional_eq_ok_iff] at h
  cases hget : entries.get? key with
  | none =>
      rw [hget] at h
      obtain rfl : Threshold.scalar .null = threshold := h
      rfl
  | some value =>
      rw [hget] at h
      exact (read_eq_ok_iff.1 h).symm

end Threshold

/-! ## Readings that are projections -/

/-- A reader is a projection: whatever it reads reads back once it is written. -/
def Reader.IsProjection {α : Type} (read : Reader α) (write : α → Value) : Prop :=
  ∀ value x, read value = .ok x → read (write x) = .ok x

/-- Under a key, an object has a list of what the members of another are made from, one by one; an
object without the key has the empty list. -/
def KeepsUnder {α : Type} (key : String) (Keeps : α → Value → Prop) (xs : List α)
    (value : Value) : Prop :=
  ∃ entries : Entries, value = .object entries ∧ ∃ items,
    (entries.get? key).getD (.list []) = .list items ∧
      List.Forall₂ (fun item x => Keeps x item) items xs

theorem KeepsUnder.imp {α : Type} {key : String} {Keeps Keeps' : α → Value → Prop}
    (himp : ∀ x value, Keeps x value → Keeps' x value) {xs : List α} {value : Value}
    (h : KeepsUnder key Keeps xs value) : KeepsUnder key Keeps' xs value := by
  obtain ⟨entries, hvalue, items, hitems, hkeeps⟩ := h
  exact ⟨entries, hvalue, items, hitems, hkeeps.imp fun item x => himp x item⟩

namespace Reader

variable {α : Type} {read : Reader α} {write : α → Value}

theorem keepsUnder_iff {key : String} {value : Value} {xs : List α} :
    KeepsUnder key (fun x item => read item = .ok x) xs value ↔
      record (optional key (list read) []) value = .ok xs := by
  rw [record_eq_ok_iff]
  refine exists_congr fun entries => and_congr_right fun _ => ?_
  rw [optional_eq_ok_iff]
  cases Entries.get? entries key with
  | none => simp [eq_comm]
  | some value => exact list_eq_ok_iff.symm

namespace IsProjection

variable (h : read.IsProjection write)

include h

theorem list : (list read).IsProjection (.ofList write) := by
  intro value xs hvalue
  obtain ⟨items, -, hitems⟩ := list_eq_ok_iff.1 hvalue
  clear hvalue
  refine list_eq_ok_iff.2 ⟨xs.map write, rfl, List.forall₂_map_left_iff.2 ?_⟩
  induction hitems with
  | nil => exact .nil
  | cons hitem _ ih => exact .cons (h _ _ hitem) ih

theorem nullable (hnull : ∀ x, write x ≠ .null) :
    (nullable read).IsProjection (.ofOption write) := by
  intro value found hvalue
  refine nullable_ofOption write hnull fun x hx => ?_
  obtain rfl := hx
  by_cases hvalue' : value = .null
  · subst hvalue'
    exact absurd hvalue nofun
  · obtain ⟨y, hread, hy⟩ := (nullable_eq_ok_iff hvalue').1 hvalue
    obtain rfl := Option.some.inj hy
    exact h value y hread

theorem optional {key : String} {default : α} (hdefault : read (write default) = .ok default)
    {entries : Entries} {x : α} (hread : optional key read default entries = .ok x) :
    read (write x) = .ok x := by
  rw [optional_eq_ok_iff] at hread
  cases hget : entries.get? key with
  | none =>
      rw [hget] at hread
      obtain rfl : default = x := hread
      exact hdefault
  | some value =>
      rw [hget] at hread
      exact h value x hread

theorem record_list (key : String) :
    (record (Reader.optional key (Reader.list read) [])).IsProjection
      fun xs => .object [(key, .ofList write xs)] := by
  intro value xs hvalue
  obtain ⟨entries, -, hread⟩ := record_eq_ok_iff.1 hvalue
  have hxs := h.list.optional rfl hread
  have hget : Entries.get? [(key, .ofList write xs)] key = some (.ofList write xs) :=
    List.lookup_cons_self
  exact record_eq_ok_iff.2 ⟨_, rfl, optional_of_get? hget hxs⟩

end IsProjection

end Reader

/-! ## Conditions, groups and rules -/

namespace Condition

/-- What a condition was made from is still there in it: an object with the name of its field, known
if any field has that name, and with its threshold, null where there is none. -/
def Keeps (condition : Condition) (value : Value) : Prop :=
  ∃ entries : Entries, value = .object entries ∧
    entries.get? "field" = some (.str condition.field.text) ∧
    (∀ field, condition.field = .known field ↔ field.name = condition.field.text) ∧
    condition.threshold = (entries.get? "value").getD .null

/-- The parts that a condition is read from. -/
theorem exists_of_read {value : Value} {condition : Condition} (h : read value = .ok condition) :
    ∃ entries : Entries, value = .object entries ∧ ∃ name,
      entries.get? "field" = some (.str name) ∧ condition.field = .ofString name ∧
      condition.threshold = (entries.get? "value").getD .null := by
  obtain ⟨entries, hvalue, hread⟩ := record_eq_ok_iff.1 h
  simp only [seq_eq_ok_iff, map_eq_ok_iff] at hread
  obtain ⟨_, params, ⟨_, threshold, ⟨_, operator, ⟨field, hfield, rfl⟩, -, rfl⟩, hthreshold, rfl⟩,
    -, rfl⟩ := hread
  obtain ⟨found, hget, hfound⟩ := required_eq_ok_iff.1 hfield
  obtain ⟨name, rfl, rfl⟩ := FieldName.read_eq_ok_iff.1 hfound
  exact ⟨entries, hvalue, name, hget, rfl, Threshold.toValue_eq_of_optional hthreshold⟩

theorem keeps_of_read {value : Value} {condition : Condition} (h : read value = .ok condition) :
    condition.Keeps value := by
  obtain ⟨entries, hvalue, name, hname, hfield, hthreshold⟩ := exists_of_read h
  have htext : condition.field.text = name := by rw [hfield, FieldName.text_ofString]
  refine ⟨entries, hvalue, ?_, fun field => ?_, hthreshold⟩
  · rw [htext, hname]
  · rw [htext, hfield, FieldName.ofString_eq_known_iff]

theorem isProjection_read : read.IsProjection write := by
  intro value condition h
  obtain ⟨_, -, name, -, hfield, -⟩ := exists_of_read h
  have hname : FieldName.read (.str condition.field.text) = .ok condition.field := by
    rw [hfield, FieldName.text_ofString]
    rfl
  obtain ⟨field, operator, threshold, params⟩ := condition
  have hoperator : Reader.named .operatorName Operator.ofName? (.str operator.name) =
      .ok operator := ofOption_eq_ok_iff.2 operator.ofName?_name
  repeat refine seq_ok ?_ ?_
  · exact map_ok _ (required_of_get? rfl hname)
  · exact required_of_get? rfl hoperator
  · exact optional_of_get? rfl (Threshold.read_eq_ok_iff.2 rfl)
  · exact optional_of_get? rfl rfl

end Condition

theorem ConditionGroup.isProjection_read : read.IsProjection write :=
  Condition.isProjection_read.record_list "conditions"

theorem RuleConditions.isProjection_read : read.IsProjection write :=
  ConditionGroup.isProjection_read.record_list "groups"

theorem Action.read_write (action : Action) : read action.write = .ok action := by
  cases action
  refine seq_ok (map_ok _ ?_) ?_
  · exact required_of_get? rfl rfl
  · exact optional_of_get? rfl rfl

/-- What the conditions of a rule were made from is still there in them, in every group. -/
def RuleConditions.Keeps : RuleConditions → Value → Prop :=
  KeepsUnder "groups" (KeepsUnder "conditions" Condition.Keeps)

theorem RuleConditions.keeps_of_read {value : Value} {groups : RuleConditions}
    (h : read value = .ok groups) : groups.Keeps value := by
  have hgroup : ∀ group value, ConditionGroup.read value = .ok group →
      KeepsUnder "conditions" Condition.Keeps group value := by
    intro group value hread
    exact (keepsUnder_iff.2 hread).imp fun _ _ => Condition.keeps_of_read
  exact (keepsUnder_iff.2 h).imp hgroup

namespace Rule

/-- What a rule was made from is still there in its conditions; a rule without any account of
conditions was given null for them. -/
def Keeps (rule : Rule) (value : Value) : Prop :=
  ∃ entries : Entries, value = .object entries ∧
    match rule.conditions with
    | some groups => RuleConditions.Keeps groups ((entries.get? "conditions").getD (.object []))
    | none => entries.get? "conditions" = some .null

/-- The parts that a rule is read from. -/
theorem exists_of_read {value : Value} {rule : Rule} (h : read value = .ok rule) :
    ∃ entries : Entries, value = .object entries ∧
      optional "conditions" (nullable RuleConditions.read) (some []) entries =
        .ok rule.conditions ∧
      optional "actions" (list Action.read) [] entries = .ok rule.actions := by
  obtain ⟨entries, hvalue, hread⟩ := record_eq_ok_iff.1 h
  simp only [seq_eq_ok_iff, map_eq_ok_iff] at hread
  obtain ⟨_, actions, ⟨_, conditions, ⟨_, serverId, ⟨_, isActive, ⟨_, name, ⟨id, -, rfl⟩, -, rfl⟩,
    -, rfl⟩, -, rfl⟩, hconditions, rfl⟩, hactions, rfl⟩ := hread
  exact ⟨entries, hvalue, hconditions, hactions⟩

theorem keeps_of_read {value : Value} {rule : Rule} (h : read value = .ok rule) :
    rule.Keeps value := by
  obtain ⟨entries, hvalue, hconditions, -⟩ := exists_of_read h
  refine ⟨entries, hvalue, ?_⟩
  rw [optional_eq_ok_iff] at hconditions
  cases hget : entries.get? "conditions" with
  | none =>
      rw [hget] at hconditions
      have hgroups : some [] = rule.conditions := hconditions
      rw [← hgroups]
      exact ⟨[], rfl, [], rfl, .nil⟩
  | some found =>
      rw [hget] at hconditions
      by_cases hnull : found = .null
      · subst hnull
        have hgroups : none = rule.conditions := Checked.ok.inj hconditions
        rw [← hgroups]
      · obtain ⟨groups, hread, hgroups⟩ := (nullable_eq_ok_iff hnull).1 hconditions
        rw [← hgroups]
        exact RuleConditions.keeps_of_read hread

theorem isProjection_read : read.IsProjection write := by
  intro value rule h
  obtain ⟨entries, -, hconditions, hactions⟩ := exists_of_read h
  have hfound := RuleConditions.isProjection_read.nullable fun _ => nofun
  have hgroups := hfound.optional rfl hconditions
  have hlist : (list Action.read).IsProjection (.ofList Action.write) :=
    IsProjection.list fun _ action _ => action.read_write
  have hactions := hlist.optional rfl hactions
  obtain ⟨id, name, isActive, serverId, conditions, actions⟩ := rule
  repeat refine seq_ok ?_ ?_
  · exact map_ok _ (required_of_get? rfl rfl)
  · exact required_of_get? rfl rfl
  · exact optional_of_get? rfl rfl
  · exact optional_of_get? rfl (nullable_str _)
  · exact optional_of_get? rfl hgroups
  · exact optional_of_get? rfl hactions

/-- Reading is a projection.  A rule that was read reads back from what is written for it; what it
was read from is there in it at every depth, and so is what is written for it.  A session and a user
read back whatever they hold. -/
theorem reading_projects :
    (∀ value rule, read value = .ok rule →
      read rule.write = .ok rule ∧ rule.Keeps value ∧ rule.Keeps rule.write) ∧
    (∀ session : Session, Session.read session.write = .ok session) ∧
    ∀ user : User, User.read user.write = .ok user := by
  refine ⟨fun value rule h => ?_, Session.read_write, User.read_write⟩
  have hreread := isProjection_read value rule h
  exact ⟨hreread, keeps_of_read h, keeps_of_read hreread⟩

/-- A rule with a word for a boolean, a group without conditions, a name that is not known, and a
threshold of every type; and a user with a numeral, a date and a time without seconds. -/
theorem reading_projects_lax :
    let unknown : Value := .object [("operator", .str "in"), ("field", .str "favorite_color"),
      ("value", .list [.str "1", .int 1, .float (.finite true 0), .bool true, .null])]
    let known : Value := .object [("field", .str "country"), ("operator", .str "eq")]
    let value : Value := .object [("id", .str "rule"), ("name", .str "Rule"),
      ("is_active", .str "Off"), ("conditions", .object [("groups",
        .list [.object [], .object [("conditions", .list [unknown, known])]])])]
    let account : Value := .object [("id", .str "user"), ("trust_score", .str " 7.0 "),
      ("created_at", .str "2026-01-10"), ("last_activity_at", .str "2026-01-10 14:30-0500")]
    (∃ rule, read value = .ok rule ∧ rule.isActive = false ∧
      read rule.write = .ok rule ∧ rule.Keeps value ∧ rule.Keeps rule.write) ∧
    ∃ user, User.read account = .ok user ∧ user.trustScore = 7 ∧ User.read user.write = .ok user :=
  ⟨⟨_, rfl, rfl, reading_projects.1 _ _ rfl⟩, _, rfl, rfl, reading_projects.2.2 _⟩

end Rule

end PlaybackRules
