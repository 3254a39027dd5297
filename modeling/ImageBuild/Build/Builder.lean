import ImageBuild.Codec

/-!
# What a builder can do
-/
namespace ImageBuild

open Codec Format

/-- The stack of a builder, the user that it runs as, and the platform API
versions that it knows. -/
structure Builder where
  stackId : String
  runImage : String
  uid : Int64
  gid : Int64
  os : String
  platformApis : List String
  deriving DecidableEq, Repr

namespace Builder

def codec : Codec Builder :=
  ((required "stackId" text).and <| (required "runImage" text).and <| (required "uid" int64).and <|
    (required "gid" int64).and <| (defaulted "os" "" text).and <|
    defaulted "platformApis" [] (list text))
    |>.as (fun (stack, image, uid, gid, os, apis) => ⟨stack, image, uid, gid, os, apis⟩)
      (fun b => (b.stackId, b.runImage, b.uid, b.gid, b.os, b.platformApis))
    |>.record

def isWindows (b : Builder) : Bool := b.os == "windows"

/-- The operating system that its nodes are labelled with. -/
def osLabel (b : Builder) : String := if b.os.isEmpty then "linux" else b.os

end Builder

end ImageBuild
