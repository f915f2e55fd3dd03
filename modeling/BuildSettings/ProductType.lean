/-!
# Product types

What a target builds. Types that are not known keep their identifier, so every identifier can be
read and written back.
-/

namespace BuildSettings

/-- What a target builds. -/
inductive ProductType where
  | application
  | framework
  | staticLibrary
  | dynamicLibrary
  | unitTest
  | uiTest
  | appExtension
  | watchApp
  | watchExtension
  | bundle
  | tool
  | other (identifier : String)
deriving DecidableEq, Inhabited, Repr

namespace ProductType

/-- The identifier of a type. -/
def identifier : ProductType → String
  | application => "com.apple.product-type.application"
  | framework => "com.apple.product-type.framework"
  | staticLibrary => "com.apple.product-type.library.static"
  | dynamicLibrary => "com.apple.product-type.library.dynamic"
  | unitTest => "com.apple.product-type.bundle.unit-test"
  | uiTest => "com.apple.product-type.bundle.ui-testing"
  | appExtension => "com.apple.product-type.app-extension"
  | watchApp => "com.apple.product-type.application.watchapp"
  | watchExtension => "com.apple.product-type.watchkit-extension"
  | bundle => "com.apple.product-type.bundle"
  | tool => "com.apple.product-type.tool"
  | other identifier => identifier

/-- The types with an identifier of their own. -/
def known : List ProductType :=
  [application, framework, staticLibrary, dynamicLibrary, unitTest, uiTest, appExtension,
    watchApp, watchExtension, bundle, tool]

/-- The type with this identifier. -/
def ofIdentifier (identifier : String) : ProductType :=
  (known.find? fun t => t.identifier == identifier).getD (other identifier)

/-- Whether the product is a bundle of tests. -/
def isTestBundle : ProductType → Bool
  | unitTest | uiTest => true
  | _ => false

/-- Whether other products link with the product. -/
def isLibrary : ProductType → Bool
  | framework | staticLibrary | dynamicLibrary => true
  | _ => false

/-- Whether the product is an application. -/
def isApplication : ProductType → Bool
  | application | watchApp => true
  | _ => false

/-- Whether the product can be started by itself. -/
def isRunnable : ProductType → Bool
  | application | watchApp | tool => true
  | _ => false

/-- Reading an identifier and writing it back gives the same text. -/
@[simp] theorem identifier_ofIdentifier (s : String) : (ofIdentifier s).identifier = s := by
  unfold ofIdentifier
  cases h : known.find? fun t => t.identifier == s with
  | none => rfl
  | some t => simpa using List.find?_some h

end ProductType

end BuildSettings
