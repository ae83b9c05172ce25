/-!
# Column types

A column type is one that every server has, or one that a schema defines. The two are never the
same type, whatever their names, but some types are known to take text by their name alone.
-/

namespace SqlDraft

/-- A type that every server has. One that is not listed here is described as a type of the schema
`pg_catalog`, since no value is bound to it in a way of its own. -/
inductive BuiltinType where
  | bool
  | bytea
  | char
  | name
  | int8
  | int2
  | int2vector
  | int4
  | text
  | oid
  | oidvector
  | json
  | xml
  | jsonArray
  | float4
  | float8
  | unknown
  | money
  | boolArray
  | nameArray
  | int2Array
  | int4Array
  | textArray
  | bpcharArray
  | varcharArray
  | int8Array
  | float4Array
  | float8Array
  | oidArray
  | bpchar
  | varchar
  | date
  | timestamptz
  | numericArray
  | numeric
  | uuid
  | uuidArray
  | jsonb
deriving DecidableEq, Repr

namespace BuiltinType

/-- Every type, in the order of the declaration. -/
def all : List BuiltinType :=
  [.bool, .bytea, .char, .name, .int8, .int2, .int2vector, .int4, .text, .oid, .oidvector, .json,
    .xml, .jsonArray, .float4, .float8, .unknown, .money, .boolArray, .nameArray, .int2Array,
    .int4Array, .textArray, .bpcharArray, .varcharArray, .int8Array, .float4Array, .float8Array,
    .oidArray, .bpchar, .varchar, .date, .timestamptz, .numericArray, .numeric, .uuid, .uuidArray,
    .jsonb]

/-- The member type of an array type. -/
def member? : BuiltinType → Option BuiltinType
  | .int2vector => some .int2
  | .oidvector => some .oid
  | .jsonArray => some .json
  | .boolArray => some .bool
  | .nameArray => some .name
  | .int2Array => some .int2
  | .int4Array => some .int4
  | .textArray => some .text
  | .bpcharArray => some .bpchar
  | .varcharArray => some .varchar
  | .int8Array => some .int8
  | .float4Array => some .float4
  | .float8Array => some .float8
  | .oidArray => some .oid
  | .numericArray => some .numeric
  | .uuidArray => some .uuid
  | _ => none

/-- The name on the server. -/
def typeName : BuiltinType → String
  | .bool => "bool"
  | .bytea => "bytea"
  | .char => "char"
  | .name => "name"
  | .int8 => "int8"
  | .int2 => "int2"
  | .int2vector => "int2vector"
  | .int4 => "int4"
  | .text => "text"
  | .oid => "oid"
  | .oidvector => "oidvector"
  | .json => "json"
  | .xml => "xml"
  | .jsonArray => "_json"
  | .float4 => "float4"
  | .float8 => "float8"
  | .unknown => "unknown"
  | .money => "money"
  | .boolArray => "_bool"
  | .nameArray => "_name"
  | .int2Array => "_int2"
  | .int4Array => "_int4"
  | .textArray => "_text"
  | .bpcharArray => "_bpchar"
  | .varcharArray => "_varchar"
  | .int8Array => "_int8"
  | .float4Array => "_float4"
  | .float8Array => "_float8"
  | .oidArray => "_oid"
  | .bpchar => "bpchar"
  | .varchar => "varchar"
  | .date => "date"
  | .timestamptz => "timestamptz"
  | .numericArray => "_numeric"
  | .numeric => "numeric"
  | .uuid => "uuid"
  | .uuidArray => "_uuid"
  | .jsonb => "jsonb"

/-- The number by which the server knows the type. -/
def oidNumber : BuiltinType → UInt32
  | .bool => 16
  | .bytea => 17
  | .char => 18
  | .name => 19
  | .int8 => 20
  | .int2 => 21
  | .int2vector => 22
  | .int4 => 23
  | .text => 25
  | .oid => 26
  | .oidvector => 30
  | .json => 114
  | .xml => 142
  | .jsonArray => 199
  | .float4 => 700
  | .float8 => 701
  | .unknown => 705
  | .money => 790
  | .boolArray => 1000
  | .nameArray => 1003
  | .int2Array => 1005
  | .int4Array => 1007
  | .textArray => 1009
  | .bpcharArray => 1014
  | .varcharArray => 1015
  | .int8Array => 1016
  | .float4Array => 1021
  | .float8Array => 1022
  | .oidArray => 1028
  | .bpchar => 1042
  | .varchar => 1043
  | .date => 1082
  | .timestamptz => 1184
  | .numericArray => 1231
  | .numeric => 1700
  | .uuid => 2950
  | .uuidArray => 2951
  | .jsonb => 3802

/-- The type with this name. -/
def ofName? (s : String) : Option BuiltinType := all.find? fun t => t.typeName = s

end BuiltinType

mutual

/-- A column type. -/
inductive SqlType where
  | builtin (t : BuiltinType)
  /-- A type that a schema defines. -/
  | custom (name : String) (oid : UInt32) (schema : String) (shape : TypeShape)

/-- How the values of a type are made. Only an array is bound in a way of its own. -/
inductive TypeShape where
  | simple
  | pseudo
  | enumeration
  | array (member : SqlType)
  | domain (base : SqlType)
  | range (bound : SqlType)
  /-- Several ranges of one range type. -/
  | multirange (range : SqlType)
  /-- A value for each of the named fields. -/
  | composite (fields : List (String × SqlType))

end

namespace SqlType

/-- The name of a type without its schema. -/
def name : SqlType → String
  | .builtin t => t.typeName
  | .custom name .. => name

/-- The number by which the server knows the type. -/
def oid : SqlType → UInt32
  | .builtin t => t.oidNumber
  | .custom _ oid .. => oid

/-- The member type of an array type. A domain over an array is no array. -/
def member? : SqlType → Option SqlType
  | .builtin t => t.member?.map .builtin
  | .custom _ _ _ (.array member) => some member
  | .custom .. => none

/-- The index of the first item of an array: one, but zero in the two vector types. -/
def lowerBound : SqlType → Nat
  | .builtin .int2vector | .builtin .oidvector => 0
  | _ => 1

/-- The name of a type in messages, with its schema unless every search finds it. -/
def display : SqlType → String
  | .builtin t => t.typeName
  | .custom name _ schema _ =>
    if schema = "public" ∨ schema = "pg_catalog" then name else schema ++ "." ++ name

/-- Types of an extension whose text begins with the number of its format. -/
def versionedTextNames : List String := ["ltree", "lquery", "ltxtquery"]

/-- Whether the text sent for the type begins with the number of its format. -/
def isVersionedText (t : SqlType) : Bool := versionedTextNames.contains t.name

/-- Whether the type takes text. Types of extensions are known by their name alone. -/
def isText (t : SqlType) : Bool :=
  match t with
  | .builtin .varchar | .builtin .text | .builtin .bpchar | .builtin .name
  | .builtin .unknown => true
  | _ => t.name = "citext" || t.isVersionedText

end SqlType

end SqlDraft
