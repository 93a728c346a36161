/-!
# Visibility of declarations

The access modifier of a declaration.  Package access has no modifier in Java, so `package` and
`unspecified` are both written as nothing.
-/

namespace BeanBuilder
namespace Draft

/-- Who may use a declaration. -/
inductive Visibility where
  | everyone
  | ownClass
  | subclasses
  | package
  | unspecified
  deriving DecidableEq, Repr

/-- The modifier in front of a declaration, with the blank that parts them. -/
def Visibility.modifier : Visibility → String
  | .everyone => "public "
  | .ownClass => "private "
  | .subclasses => "protected "
  | .package => ""
  | .unspecified => ""

end Draft
end BeanBuilder
