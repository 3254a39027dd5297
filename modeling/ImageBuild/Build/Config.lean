import ImageBuild.Codec
import ImageBuild.Version.Parser

/-!
# Configuration of build plans

The images of the steps that do not run in the builder, and the highest
platform API version that may be used.
-/
namespace ImageBuild

open Codec Format

/-- A version is written as its text. -/
def Version.codec : Codec Version :=
  ⟨fun v => .str v.text, fun d => d.string?.bind fun s => (Version.parseText s).toOption⟩

structure PlanConfig where
  buildInitImage : String
  buildInitWindowsImage : String
  completionImage : String
  completionWindowsImage : String
  rebaseImage : String
  maxPlatformApi : Option Version
  deriving DecidableEq, Repr

namespace PlanConfig

def default : PlanConfig where
  buildInitImage := "ghcr.io/kiln-build/build-init:latest"
  buildInitWindowsImage := "ghcr.io/kiln-build/build-init-windows:latest"
  completionImage := "ghcr.io/kiln-build/completion:latest"
  completionWindowsImage := "ghcr.io/kiln-build/completion-windows:latest"
  rebaseImage := "ghcr.io/kiln-build/rebase:latest"
  maxPlatformApi := none

def codec : Codec PlanConfig :=
  ((required "buildInitImage" text).and <| (required "buildInitWindowsImage" text).and <|
    (required "completionImage" text).and <| (required "completionWindowsImage" text).and <|
    (required "rebaseImage" text).and <| optional "maxPlatformApi" Version.codec)
    |>.as (fun (init, initWindows, completion, completionWindows, rebase, api) =>
        ⟨init, initWindows, completion, completionWindows, rebase, api⟩)
      (fun c => (c.buildInitImage, c.buildInitWindowsImage, c.completionImage,
        c.completionWindowsImage, c.rebaseImage, c.maxPlatformApi))
    |>.record

/-- The image of the prepare step. -/
def prepareImage (c : PlanConfig) (windows : Bool) : String :=
  if windows then c.buildInitWindowsImage else c.buildInitImage

/-- The image of the completion step. -/
def finalImage (c : PlanConfig) (windows : Bool) : String :=
  if windows then c.completionWindowsImage else c.completionImage

end PlanConfig

end ImageBuild
