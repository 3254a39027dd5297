import ImageBuild.Change.Basic

/-!
# Snapshots

A snapshot is what decides about builds of an image at one time. Two snapshots
give the candidate changes, in a fixed order.
-/
namespace ImageBuild

open Codec Format

structure BuildSnapshot where
  config : BuildConfig
  buildpacks : List Buildpack
  extensions : List Buildpack
  runImage : String
  /-- When a build was asked for by hand. -/
  triggeredAt : Option String
  deriving DecidableEq, Repr

namespace BuildSnapshot

def codec : Codec BuildSnapshot :=
  ((required "config" BuildConfig.codec).and <|
    (defaulted "buildpacks" [] (list Buildpack.codec)).and <|
    (defaulted "extensions" [] (list Buildpack.codec)).and <|
    (defaulted "runImage" "" text).and <|
    optional "triggeredAt" text)
    |>.as (fun (config, buildpacks, extensions, image, time) =>
        ⟨config, buildpacks, extensions, image, time⟩)
      (fun s => (s.config, s.buildpacks, s.extensions, s.runImage, s.triggeredAt))
    |>.record

/-- A build was asked for, and not already in the old snapshot. -/
def triggerChange (old new : BuildSnapshot) : List Change :=
  match new.triggeredAt with
  | some time => if time.isEmpty || old.triggeredAt = some time then [] else [.triggered time]
  | none => []

/-- Revisions are compared if both sources have one. -/
def commitChange (old new : BuildSnapshot) : List Change :=
  match old.config.source.revision, new.config.source.revision with
  | some a, some b => [.commit a b]
  | _, _ => []

/-- Run images are compared if both are known. -/
def stackChange (old new : BuildSnapshot) : List Change :=
  if old.runImage.isEmpty || new.runImage.isEmpty then [] else [.stack old.runImage new.runImage]

/-- The candidate changes from one snapshot to another. -/
def changes (old new : BuildSnapshot) : List Change :=
  triggerChange old new ++ commitChange old new ++
    [.config old.config new.config,
      .ofBuildpacks old.buildpacks new.buildpacks,
      .ofExtensions old.extensions new.extensions] ++
    stackChange old new

end BuildSnapshot

end ImageBuild
