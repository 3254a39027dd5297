import ImageBuild.Build.Request
import ImageBuild.Plan.Basic
import ImageBuild.Version.Order

/-!
# Where layers are cached

A volume cache is mounted, a registry cache is named by the image that the
build before left there.
-/
namespace ImageBuild

inductive CacheStrategy where
  | none
  | volume (claim : String)
  | registry (tag : String) (previous : Option String)
  deriving DecidableEq, Repr

namespace CacheStrategy

/-- There are no volume caches on Windows. -/
def select (r : BuildRequest) (windows : Bool) : CacheStrategy :=
  match r.volumeCache, windows with
  | some claim, false => .volume claim
  | _, _ =>
    match r.registryCache with
    | some tag => .registry tag r.previousCacheImage
    | Option.none => .none

def dirArg : String := "-cache-dir=" ++ Layout.cache.mountPath

def imageArg (image : String) : String := "-cache-image=" ++ image

/-- The argument that says where cached layers come from. -/
def restoreArgs : CacheStrategy → List String
  | .none => []
  | .volume _ => [dirArg]
  | .registry _ previous => (previous.map imageArg).toList

/-- The first version whose analyze step does without the cache directory. -/
def analyzeWithoutDir : Version := .release 0 7 0

def analyzeArgs (c : CacheStrategy) (api : Version) : List String :=
  match c with
  | .volume _ => if analyzeWithoutDir ≤ api then [] else c.restoreArgs
  | _ => c.restoreArgs

/-- The argument that says where layers are cached. -/
def exportArgs : CacheStrategy → List String
  | .none => []
  | .volume _ => [dirArg]
  | .registry tag _ => [imageArg tag]

def tag : CacheStrategy → Option String
  | .registry tag _ => some tag
  | _ => Option.none

def volumes : CacheStrategy → List Volume
  | .volume claim => [⟨Layout.cache.name, .claim claim⟩]
  | _ => []

def mounts : CacheStrategy → List VolumeMount
  | .volume _ => [Layout.cache]
  | _ => []

end CacheStrategy

end ImageBuild
