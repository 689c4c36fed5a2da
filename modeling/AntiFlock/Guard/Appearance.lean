import AntiFlock.Delimited
import AntiFlock.Guard.Bypass
import Mathlib.Data.Finset.Card
import Mathlib.Data.List.Sort
import Mathlib.Data.String.Basic

set_option autoImplicit false

/-!
# Classified vehicle appearances

Neither the text that is hashed nor the text that is shown confuses two appearances.
-/
namespace AntiFlock.Guard
open AntiFlock.Delimited

inductive VehicleBodyStyle where
  | sedan | hatchback | coupe | wagon | suvCrossover | pickup | vanMinivan | motorcycle | bus | other
  deriving DecidableEq

inductive VehicleSizeClass where
  | small | medium | large | oversize | unknown
  deriving DecidableEq

inductive VehicleColorBucket where
  | black | white | graySilver | red | blue | green | brownTan | yellowOrange | other | unknown
  deriving DecidableEq

inductive VehicleAppearanceFeature where
  | roofRack | roofCargo | rearCargoRack | trailer | openCargoBed | highVisibilityMarkings
  deriving DecidableEq

def VehicleBodyStyle.name : VehicleBodyStyle → String
  | .sedan => "SEDAN"
  | .hatchback => "HATCHBACK"
  | .coupe => "COUPE"
  | .wagon => "WAGON"
  | .suvCrossover => "SUV_CROSSOVER"
  | .pickup => "PICKUP"
  | .vanMinivan => "VAN_MINIVAN"
  | .motorcycle => "MOTORCYCLE"
  | .bus => "BUS"
  | .other => "OTHER"

def VehicleBodyStyle.label : VehicleBodyStyle → String
  | .sedan => "sedan"
  | .hatchback => "hatchback"
  | .coupe => "coupe"
  | .wagon => "wagon"
  | .suvCrossover => "SUV/crossover"
  | .pickup => "pickup"
  | .vanMinivan => "van/minivan"
  | .motorcycle => "motorcycle"
  | .bus => "bus"
  | .other => "other body style"

def VehicleSizeClass.name : VehicleSizeClass → String
  | .small => "SMALL"
  | .medium => "MEDIUM"
  | .large => "LARGE"
  | .oversize => "OVERSIZE"
  | .unknown => "UNKNOWN"

def VehicleSizeClass.label : VehicleSizeClass → String
  | .small => "small"
  | .medium => "medium"
  | .large => "large"
  | .oversize => "oversize"
  | .unknown => "unknown-size"

def VehicleColorBucket.name : VehicleColorBucket → String
  | .black => "BLACK"
  | .white => "WHITE"
  | .graySilver => "GRAY_SILVER"
  | .red => "RED"
  | .blue => "BLUE"
  | .green => "GREEN"
  | .brownTan => "BROWN_TAN"
  | .yellowOrange => "YELLOW_ORANGE"
  | .other => "OTHER"
  | .unknown => "UNKNOWN"

def VehicleColorBucket.label : VehicleColorBucket → String
  | .black => "black"
  | .white => "white"
  | .graySilver => "gray/silver"
  | .red => "red"
  | .blue => "blue"
  | .green => "green"
  | .brownTan => "brown/tan"
  | .yellowOrange => "yellow/orange"
  | .other => "other-color"
  | .unknown => "unknown-color"

namespace VehicleAppearanceFeature

def name : VehicleAppearanceFeature → String
  | roofRack => "ROOF_RACK"
  | roofCargo => "ROOF_CARGO"
  | rearCargoRack => "REAR_CARGO_RACK"
  | trailer => "TRAILER"
  | openCargoBed => "OPEN_CARGO_BED"
  | highVisibilityMarkings => "HIGH_VISIBILITY_MARKINGS"

def label : VehicleAppearanceFeature → String
  | roofRack => "roof rack"
  | roofCargo => "roof cargo"
  | rearCargoRack => "rear cargo rack"
  | trailer => "trailer"
  | openCargoBed => "open cargo bed"
  | highVisibilityMarkings => "high-visibility markings"

def all : List VehicleAppearanceFeature :=
  [roofRack, roofCargo, rearCargoRack, trailer, openCargoBed, highVisibilityMarkings]

end VehicleAppearanceFeature

structure ClassifiedVehicleAppearance where
  bodyStyle : VehicleBodyStyle
  sizeClass : VehicleSizeClass
  colorBucket : VehicleColorBucket
  features : Finset VehicleAppearanceFeature
  controlled : features.card ≤ 3
  deriving DecidableEq

/-- The features of an appearance, sorted by their names. -/
def sortedFeatures (features : Finset VehicleAppearanceFeature) : List VehicleAppearanceFeature :=
  (VehicleAppearanceFeature.all.filter (· ∈ features)).insertionSort fun a b => a.name ≤ b.name

namespace ClassifiedVehicleAppearance

def canonicalVector (appearance : ClassifiedVehicleAppearance) : String :=
  String.join ["vehicle-appearance-v1", "|body=", appearance.bodyStyle.name, "|size=", appearance.sizeClass.name,
    "|color=", appearance.colorBucket.name, "|features=",
    ",".intercalate ((sortedFeatures appearance.features).map (·.name))]

def controlledDescription (appearance : ClassifiedVehicleAppearance) : String :=
  String.join [appearance.colorBucket.label, " ", appearance.sizeClass.label, " ", appearance.bodyStyle.label,
    if appearance.features = ∅ then "" else
      " with " ++ ", ".intercalate ((sortedFeatures appearance.features).map (·.label))]

end ClassifiedVehicleAppearance

/-! ## No two appearances share a text -/

theorem bodyLabel_delimits : Delimits fun style : VehicleBodyStyle => style.label.toList :=
  .of_continues fun a b x h => by cases a <;> cases b <;> first | rfl | simp [VehicleBodyStyle.label] at h

theorem sizeLabel_delimits : Delimits fun size : VehicleSizeClass => size.label.toList :=
  .of_continues fun a b x h => by cases a <;> cases b <;> first | rfl | simp [VehicleSizeClass.label] at h

theorem colorLabel_delimits : Delimits fun color : VehicleColorBucket => color.label.toList :=
  .of_continues fun a b x h => by cases a <;> cases b <;> first | rfl | simp [VehicleColorBucket.label] at h

theorem featureLabel_delimits : Delimits fun feature : VehicleAppearanceFeature => feature.label.toList :=
  .of_continues fun a b x h => by cases a <;> cases b <;> first | rfl | simp [VehicleAppearanceFeature.label] at h

theorem mem_sortedFeatures {features : Finset VehicleAppearanceFeature} {feature : VehicleAppearanceFeature} :
    feature ∈ sortedFeatures features ↔ feature ∈ features := by
  unfold sortedFeatures
  rw [List.mem_insertionSort, List.mem_filter, decide_eq_true_eq]
  exact and_iff_right (by cases feature <;> decide)

theorem sortedFeatures_injective : Function.Injective sortedFeatures := by
  intro features features' h
  ext feature
  rw [← mem_sortedFeatures, ← mem_sortedFeatures, h]

theorem labels_injective {features features' : Finset VehicleAppearanceFeature}
    (h : (", ".intercalate ((sortedFeatures features).map (·.label))).toList =
      (", ".intercalate ((sortedFeatures features').map (·.label))).toList) : features = features' := by
  simp only [String.toList_intercalate, List.map_map, Function.comp_def] at h
  refine sortedFeatures_injective (featureLabel_delimits.intercalate_inj (fun a => ?_) (fun hsep => ?_) h)
  · cases a <;> simp [VehicleAppearanceFeature.label]
  · simp at hsep

theorem controlledDescription_injective : Function.Injective ClassifiedVehicleAppearance.controlledDescription := by
  rintro ⟨body, size, color, features, hfeatures⟩ ⟨body', size', color', features', hfeatures'⟩ h
  have hlist := congrArg String.toList h
  simp only [ClassifiedVehicleAppearance.controlledDescription, String.toList_join, List.flatMap_cons, List.flatMap_nil,
    List.append_nil] at hlist
  obtain ⟨rfl, hsize⟩ := colorLabel_delimits.read hlist
  rw [List.append_cancel_left_eq] at hsize
  obtain ⟨rfl, hbody⟩ := sizeLabel_delimits.read hsize
  rw [List.append_cancel_left_eq] at hbody
  obtain ⟨rfl, hlabels⟩ := bodyLabel_delimits.read hbody
  by_cases hempty : features = ∅ <;> by_cases hempty' : features' = ∅
  · subst hempty hempty'
    rfl
  · simp [hempty, hempty'] at hlabels
  · simp [hempty, hempty'] at hlabels
  · rw [if_neg hempty, if_neg hempty', String.toList_append, String.toList_append, List.append_cancel_left_eq] at hlabels
    obtain rfl := labels_injective hlabels
    rfl

theorem controlledDescription_not_blank (appearance : ClassifiedVehicleAppearance) :
    isBlank appearance.controlledDescription = false := by
  unfold isBlank ClassifiedVehicleAppearance.controlledDescription
  rw [String.toList_join, List.flatMap_cons, List.all_append]
  cases appearance.colorBucket <;> simp [VehicleColorBucket.label, isWhitespace]

end AntiFlock.Guard
