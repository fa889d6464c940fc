import Chargen.Age
import Chargen.Profile
import Chargen.Rulebook.Entry

/-!
# Issues

What a review of a draft can find. An issue holds what it is about; its code, its message and the
field of the draft it points at are computed from that. Only two kinds of issue are mere warnings.
-/

namespace Chargen

/-- How grave an issue is. -/
inductive Severity where
  /-- the draft cannot go on with it -/
  | error
  /-- the draft may go on with it -/
  | warning
deriving DecidableEq, Repr

/-- The printed name of a severity. -/
def Severity.name : Severity → String
  | .error => "error"
  | .warning => "warning"

/-- The kinds of issues. -/
inductive IssueCode where
  | ageOutOfRange
  | agePenaltyAllocation
  | characteristicsMissing
  | characteristicOutOfRange
  | characteristicsStaleAge
  | occupationMissing
  | occupationUnknown
  | creditRatingOutOfRange
  | occupationChoiceGroup
  | occupationChoiceNotAllowed
  | occupationChoiceForbidden
  | occupationChoiceDuplicate
  | occupationFormulaChoice
  | occupationBudgetExceeded
  | occupationSkillNotAllowed
  | skillAbsoluteCapExceeded
  | skillCreationCapExceeded
  | personalBudgetExceeded
  | skillForbiddenPersonal
  | identityNameMissing
  | backgroundInsufficient
  | backgroundCoreBondMissing
  | equipmentFieldMissing
deriving DecidableEq, Repr

namespace IssueCode

/-- The printed name of a code. -/
def name : IssueCode → String
  | .ageOutOfRange => "AGE_OUT_OF_RANGE"
  | .agePenaltyAllocation => "AGE_PENALTY_ALLOCATION"
  | .characteristicsMissing => "CHARACTERISTICS_MISSING"
  | .characteristicOutOfRange => "CHARACTERISTIC_OUT_OF_RANGE"
  | .characteristicsStaleAge => "CHARACTERISTICS_STALE_AGE"
  | .occupationMissing => "OCCUPATION_MISSING"
  | .occupationUnknown => "OCCUPATION_UNKNOWN"
  | .creditRatingOutOfRange => "CREDIT_RATING_OUT_OF_RANGE"
  | .occupationChoiceGroup => "OCCUPATION_CHOICE_GROUP"
  | .occupationChoiceNotAllowed => "OCCUPATION_CHOICE_NOT_ALLOWED"
  | .occupationChoiceForbidden => "OCCUPATION_CHOICE_FORBIDDEN"
  | .occupationChoiceDuplicate => "OCCUPATION_CHOICE_DUPLICATE"
  | .occupationFormulaChoice => "OCCUPATION_FORMULA_CHOICE"
  | .occupationBudgetExceeded => "OCCUPATION_BUDGET_EXCEEDED"
  | .occupationSkillNotAllowed => "OCCUPATION_SKILL_NOT_ALLOWED"
  | .skillAbsoluteCapExceeded => "SKILL_ABSOLUTE_CAP_EXCEEDED"
  | .skillCreationCapExceeded => "SKILL_CREATION_CAP_EXCEEDED"
  | .personalBudgetExceeded => "PERSONAL_BUDGET_EXCEEDED"
  | .skillForbiddenPersonal => "SKILL_FORBIDDEN_PERSONAL"
  | .identityNameMissing => "IDENTITY_NAME_MISSING"
  | .backgroundInsufficient => "BACKGROUND_INSUFFICIENT"
  | .backgroundCoreBondMissing => "BACKGROUND_CORE_BOND_MISSING"
  | .equipmentFieldMissing => "EQUIPMENT_FIELD_MISSING"

/-- An age out of range and characteristics rolled at another age are warnings. -/
def severity : IssueCode → Severity
  | .ageOutOfRange => .warning
  | .characteristicsStaleAge => .warning
  | _ => .error

end IssueCode

/-- A required field of the equipment. -/
inductive EquipmentField where
  | spendingLevel
  | cash
  | assets
  | notes
deriving DecidableEq, Repr

namespace EquipmentField

/-- All required fields, in the order of the sheet. -/
def all : List EquipmentField :=
  [.spendingLevel, .cash, .assets, .notes]

/-- The name of the field in a document. -/
def name : EquipmentField → String
  | .spendingLevel => "spending_level"
  | .cash => "cash"
  | .assets => "assets"
  | .notes => "notes"

/-- The name of the field in a sentence. -/
def label : EquipmentField → String
  | .spendingLevel => "spending level"
  | .cash => "cash"
  | .assets => "assets"
  | .notes => "notes"

end EquipmentField

/-- The greatest total of any skill. -/
def absoluteCap : Int := 99

/-- The greatest total, at creation, of a skill that received points. -/
def creationCap : Int := 75

/-- The number of background categories that have to be filled. -/
def minCategories : Nat := 3

/-- What is wrong with a draft. -/
inductive Issue where
  /-- the rules do not cover the age -/
  | ageOutOfRange (age : Nat)
  /-- the split of the age penalties does not add up -/
  | penaltyMismatch (m : SplitMismatch)
  /-- a characteristic has no value -/
  | characteristicMissing (c : Characteristic)
  /-- a characteristic has a value that is not legal -/
  | characteristicIllegal (c : Characteristic) (value : Int)
  /-- the characteristics were rolled at another age -/
  | characteristicsStale (rolledAt age : Nat)
  /-- no occupation is selected -/
  | occupationMissing
  /-- the rulebook does not list the occupation -/
  | occupationUnknown (name : String)
  /-- the occupation does not allow the credit rating -/
  | creditOutOfRange (rating : Int) (range : CreditRange) (occupation : String)
  /-- a group does not have as many picks as it asks for -/
  | pickCount (index : Nat) (label : String) (wanted got : Nat)
  /-- a skill is picked twice in a group -/
  | pickRepeated (index : Nat) (pick label : String)
  /-- a group does not offer a pick -/
  | pickOutsidePool (index : Nat) (pick label : String)
  /-- a pick is forbidden at creation -/
  | pickForbidden (index : Nat) (pick : String)
  /-- an option of the points formula has to be chosen -/
  | formulaOpen (key : Nat) (options : List String)
  /-- more occupation points are spent than there are -/
  | occupationOverspent (spent total : Int)
  /-- the occupation does not grant a skill that has occupation points -/
  | skillNotGranted (skill occupation : String)
  /-- a skill is above the cap of all skills -/
  | aboveAbsoluteCap (skill : String) (total : Int)
  /-- a skill that received points is above the cap at creation -/
  | aboveCreationCap (skill : String) (total : Int)
  /-- more personal points are spent than there are -/
  | personalOverspent (spent total : Int)
  /-- a skill that is forbidden at creation has personal points -/
  | skillForbidden (skill : String)
  /-- the investigator has no name -/
  | nameMissing
  /-- too few background categories are filled -/
  | backgroundThin (filled : Nat)
  /-- the core bond is missing -/
  | coreBondMissing
  /-- a required field of the equipment is empty -/
  | equipmentMissing (field : EquipmentField)
deriving DecidableEq, Repr

namespace Issue

/-- The kind of an issue. -/
def code : Issue → IssueCode
  | .ageOutOfRange _ => .ageOutOfRange
  | .penaltyMismatch _ => .agePenaltyAllocation
  | .characteristicMissing _ => .characteristicsMissing
  | .characteristicIllegal _ _ => .characteristicOutOfRange
  | .characteristicsStale _ _ => .characteristicsStaleAge
  | .occupationMissing => .occupationMissing
  | .occupationUnknown _ => .occupationUnknown
  | .creditOutOfRange _ _ _ => .creditRatingOutOfRange
  | .pickCount _ _ _ _ => .occupationChoiceGroup
  | .pickRepeated _ _ _ => .occupationChoiceDuplicate
  | .pickOutsidePool _ _ _ => .occupationChoiceNotAllowed
  | .pickForbidden _ _ => .occupationChoiceForbidden
  | .formulaOpen _ _ => .occupationFormulaChoice
  | .occupationOverspent _ _ => .occupationBudgetExceeded
  | .skillNotGranted _ _ => .occupationSkillNotAllowed
  | .aboveAbsoluteCap _ _ => .skillAbsoluteCapExceeded
  | .aboveCreationCap _ _ => .skillCreationCapExceeded
  | .personalOverspent _ _ => .personalBudgetExceeded
  | .skillForbidden _ => .skillForbiddenPersonal
  | .nameMissing => .identityNameMissing
  | .backgroundThin _ => .backgroundInsufficient
  | .coreBondMissing => .backgroundCoreBondMissing
  | .equipmentMissing _ => .equipmentFieldMissing

/-- How grave an issue is. -/
def severity (i : Issue) : Severity :=
  i.code.severity

/-- Whether an issue keeps the draft from going on. -/
def isError (i : Issue) : Bool :=
  i.severity == .error

/-- The field of the draft that an issue points at. -/
def field : Issue → String
  | .ageOutOfRange _ => "age"
  | .penaltyMismatch m => if m.youth then "age_penalties.youth" else "age_penalties.mature"
  | .characteristicMissing c => s!"characteristics.{c.name}"
  | .characteristicIllegal c _ => s!"characteristics.{c.name}"
  | .characteristicsStale _ _ => "characteristics"
  | .occupationMissing => "occupation"
  | .occupationUnknown _ => "occupation.name"
  | .creditOutOfRange _ _ _ => "occupation.credit_rating"
  | .pickCount index _ _ _ => s!"occupation.choices.{index}"
  | .pickRepeated index _ _ => s!"occupation.choices.{index}"
  | .pickOutsidePool index _ _ => s!"occupation.choices.{index}"
  | .pickForbidden index _ => s!"occupation.choices.{index}"
  | .formulaOpen key _ => s!"occupation.formula_choices.{key}"
  | .occupationOverspent _ _ => "skills.occupation"
  | .skillNotGranted skill _ => s!"skills.occupation.{skill}"
  | .aboveAbsoluteCap skill _ => s!"skills.{skill}"
  | .aboveCreationCap skill _ => s!"skills.{skill}"
  | .personalOverspent _ _ => "skills.personal"
  | .skillForbidden skill => s!"skills.personal.{skill}"
  | .nameMissing => "identity.name"
  | .backgroundThin _ => "background"
  | .coreBondMissing => "background.core_bond"
  | .equipmentMissing f => s!"equipment.{f.name}"

/-- What an issue says to the player. -/
def message : Issue → String
  | .ageOutOfRange age => s!"Age {age} is outside {minAge}-{maxAge}"
  | .penaltyMismatch m =>
    let what := if m.youth then "FUE and TAM" else "FUE, CON and DES"
    s!"Age penalty on {what} must add up to {m.expected}, got {m.actual}"
  | .characteristicMissing c => s!"{c.name} has not been rolled"
  | .characteristicIllegal c value =>
    s!"{c.name} is {value}, outside {minCharacteristic}-{maxCharacteristic}"
  | .characteristicsStale rolledAt age =>
    s!"Characteristics were rolled at age {rolledAt} but age is now {age}; roll again"
  | .occupationMissing => "No occupation selected"
  | .occupationUnknown name => s!"Unknown occupation: {name}"
  | .creditOutOfRange rating range occupation =>
    s!"Credit rating {rating} is outside {range.min}-{range.max} for {occupation}"
  | .pickCount _ label wanted got => s!"'{label}' needs exactly {wanted} skill(s), {got} selected"
  | .pickRepeated _ pick label => s!"{pick} selected more than once in '{label}'"
  | .pickOutsidePool _ pick label => s!"{pick} is not an option of '{label}'"
  | .pickForbidden _ pick => s!"{pick} cannot be chosen at creation"
  | .formulaOpen _ options =>
    let listed := " / ".intercalate options
    s!"Choose one of {listed} for the occupation points formula"
  | .occupationOverspent spent total =>
    s!"{spent} occupation points spent (credit rating included), {total} available"
  | .skillNotGranted skill occupation => s!"{skill} is not an occupation skill of {occupation}"
  | .aboveAbsoluteCap skill total => s!"{skill} totals {total}, above {absoluteCap}"
  | .aboveCreationCap skill total =>
    s!"{skill} totals {total}, above the creation cap of {creationCap}"
  | .personalOverspent spent total =>
    s!"{spent} personal interest points spent, {total} available"
  | .skillForbidden skill => s!"{skill} cannot receive personal interest points at creation"
  | .nameMissing => "The investigator needs a name"
  | .backgroundThin filled =>
    s!"Fill at least {minCategories} background categories, {filled} filled"
  | .coreBondMissing => "The core bond is mandatory"
  | .equipmentMissing f => s!"Equipment {f.label} is empty"

/-- An issue as a line of a list. -/
def line (i : Issue) : String :=
  s!"- [{i.code.name}] {i.message} ({i.field})"

end Issue

end Chargen
