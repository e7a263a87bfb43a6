/-!
# Letters without regard to case

Names in a cloud's resource tree, protocol names and log levels are compared
without regard to the case of the ASCII letters. Other letters are compared as
they are: `É` and `é` are different names.
-/

namespace ClusterPorts.Text

/-- The text with every ASCII capital replaced by its small letter. -/
def lower (s : String) : String :=
  String.ofList (s.toList.map Char.toLower)

/-- Whether two texts agree up to the case of their ASCII letters. -/
def sameLetters (s t : String) : Bool :=
  s.toList.map Char.toLower == t.toList.map Char.toLower

/-- Agreement up to case is equality of the lowered texts. -/
theorem sameLetters_iff {s t : String} : sameLetters s t = true ↔ lower s = lower t := by
  simp [sameLetters, lower, String.ofList_inj]

@[simp] theorem sameLetters_self (s : String) : sameLetters s s = true :=
  sameLetters_iff.2 rfl

/-- Whether a text begins with another one, character by character. -/
def startsWith (s beginning : String) : Bool :=
  beginning.toList.isPrefixOf s.toList

end ClusterPorts.Text
