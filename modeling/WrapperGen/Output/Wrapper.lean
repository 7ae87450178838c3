import WrapperGen.Interface
import WrapperGen.Output.Draft

/-!
# Wrappers

The wrapper of an interface is a structure with a value of the interface inside.  It has every
method of the interface, and each hands its call on to the value inside.

## Main definitions

* `wrapperName`: the name of the structure.
* `writeWrapper`: writes the structure, a function that makes one, and the methods.
-/

namespace WrapperGen

/-- The name of the wrapper of an interface. -/
def wrapperName (namePrefix : String) (i : Interface) : String :=
  namePrefix ++ i.name ++ "Wrapper"

/-- The name that the methods of a wrapper have for it. -/
def wrapperReceiver : String := "w"

/-- The field with the value inside of a wrapper. -/
def innerField : String := "inner"

/-- The structure of a wrapper, given the text of the interface type. -/
def wrapperStruct (name interfaceText : String) : StructDecl :=
  ⟨name, [(innerField, interfaceText)]⟩

/-- The function that makes a wrapper, given the text of the interface type. -/
def wrapperConstructor (name interfaceText : String) : FunctionDecl :=
  .plain ("New" ++ name) [innerField ++ " " ++ interfaceText] ["*" ++ name]
    ["return &" ++ name ++ "\x7b" ++ innerField ++ ": " ++ innerField ++ "\x7d"]

/-- The statements of a method that hands its call on. -/
def forwardingBody (m : Method WrittenName) : List String :=
  let call := forwardingCall m (wrapperReceiver ++ "." ++ innerField)
  if m.signature.results.isEmpty then [call] else [call, forwardingReturn m]

/-- Write the methods of a wrapper of an interface of package `home`. -/
def writeMethods (name home : String) : List (Method WrittenName) → StateM Draft Unit
  | [] => pure ()
  | m :: rest => do
      let method ← Draft.naming (overridingMethod wrapperReceiver name home m (forwardingBody m))
      modify (Draft.addDeclaration method.text)
      writeMethods name home rest

/-- Write the wrapper of an interface. -/
def writeWrapper (namePrefix : String) (i : Interface) : StateM Draft Unit := do
  let name := wrapperName namePrefix i
  let interfaceText ← Draft.naming (qualify i.importPath i.name)
  modify (Draft.addDeclaration (wrapperStruct name interfaceText).text)
  modify (Draft.addDeclaration (wrapperConstructor name interfaceText).text)
  writeMethods name i.importPath i.methods

/-- The name of the file of a wrapper, before it is made lower case. -/
def wrapperFileName (interfaceName : String) : String := interfaceName ++ ".go"

end WrapperGen
