/-
The files that a function's text goes to: at most six, in a fixed order, each with a name made from
the function's.
-/
import AdaGlue.Path

namespace AdaGlue

/-- A declaration or a body of one of a function's packages. -/
inductive Destination where
  | wrappersDecl
  | wrappersBody
  | asyncDecl
  | asyncBody
  | skeletonDecl
  | skeletonBody
  deriving DecidableEq, Repr

namespace Destination

/-- All destinations, in the order of the files of a run. -/
def all : List Destination :=
  [.wrappersDecl, .wrappersBody, .asyncDecl, .asyncBody, .skeletonDecl, .skeletonBody]

def name : Destination → String
  | .wrappersDecl => "wrappers-decl"
  | .wrappersBody => "wrappers-body"
  | .asyncDecl => "async-ri-decl"
  | .asyncBody => "async-ri-body"
  | .skeletonDecl => "skeleton-decl"
  | .skeletonBody => "skeleton-body"

/-- What follows the function's name in the name of the file. -/
def ending : Destination → String
  | .wrappersDecl => "_wrappers.ads"
  | .wrappersBody => "_wrappers.adb"
  | .asyncDecl => "_async_ri_wrappers.ads"
  | .asyncBody => "_async_ri_wrappers.adb"
  | .skeletonDecl => ".ads"
  | .skeletonBody => ".adb"

def fileName (d : Destination) (function : String) : String :=
  function ++ d.ending

/-- The path of the file below the root of a run: a directory for each function. -/
def path (d : Destination) (function : String) : String :=
  Path.join function (d.fileName function)

end Destination

/-- A file that has been generated. -/
structure GeneratedFile where
  function : String
  kind : Destination
  path : String
  contents : String
  deriving DecidableEq, Repr

end AdaGlue
