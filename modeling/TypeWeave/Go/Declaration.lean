import TypeWeave.File.Path
import TypeWeave.Go.Tag

/-!
# Type declarations

What is known of a struct or an interface that a source file declares: its members, the types it
embeds and where it stands.
-/

namespace TypeWeave.Go

/-- A named field of a struct or a method of an interface. The type of a method is its signature. -/
structure Member where
  name : String
  typeName : String
  tag : Option String := none
  line : Int := 0
  deriving DecidableEq, Repr

/-- The value of a key in the tag of a member. -/
def Member.tagLookup (m : Member) (key : String) : Option String :=
  m.tag.bind fun tag => Tag.lookup tag key

/-- A struct or interface that a source file declares at its top level. -/
structure Declaration where
  name : String
  package : String
  kind : String
  members : List Member := []
  embedded : List String := []
  file : File.Path := File.Path.current
  line : Int := 0
  deriving DecidableEq, Repr

namespace Declaration

/-- The kind of a struct. -/
def structKind : String := "struct"

/-- The kind of an interface. -/
def interfaceKind : String := "interface"

/-- The directory of the file that holds the declaration. -/
def directory (d : Declaration) : File.Path := d.file.parent

/-- Whether the declaration is a struct. -/
def isStruct (d : Declaration) : Bool := d.kind == structKind

/-- Whether the declaration is an interface. -/
def isInterface (d : Declaration) : Bool := d.kind == interfaceKind

end Declaration

end TypeWeave.Go
