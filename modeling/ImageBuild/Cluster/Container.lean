import ImageBuild.Cluster.Env
import ImageBuild.Cluster.Probe
import ImageBuild.Cluster.Scheduling
import ImageBuild.Cluster.Security
import ImageBuild.Cluster.Volume

/-!
# Containers

A container of a pod. The settings that build steps leave alone are kept apart
from the others.
-/
namespace ImageBuild

open Codec Format

/-- A config map or a secret as a whole. -/
structure ObjectSelector where
  name : Option String
  isOptional : Option Bool
  deriving DecidableEq, Repr

def ObjectSelector.codec : Codec ObjectSelector :=
  ((optional "name" text).and <| optional "optional" bool)
    |>.as (fun (name, isOptional) => ⟨name, isOptional⟩) (fun s => (s.name, s.isOptional))
    |>.object

/-- Variables for all keys of an object. -/
structure EnvGroup where
  configMap : Option ObjectSelector
  lead : Option String
  secret : Option ObjectSelector
  deriving DecidableEq, Repr

def EnvGroup.codec : Codec EnvGroup :=
  ((optional "configMapRef" ObjectSelector.codec).and <| (optional "prefix" text).and <|
    optional "secretRef" ObjectSelector.codec)
    |>.as (fun (config, lead, secret) => ⟨config, lead, secret⟩)
      (fun g => (g.configMap, g.lead, g.secret))
    |>.object

structure ContainerPort where
  port : Int32
  hostIp : Option String
  hostPort : Option Int32
  name : Option String
  protocol : Option String
  deriving DecidableEq, Repr

def ContainerPort.codec : Codec ContainerPort :=
  ((filled "containerPort" 0 int32).and <| (optional "hostIP" text).and <|
    (optional "hostPort" int32).and <| (optional "name" text).and <| optional "protocol" text)
    |>.as (fun (port, ip, hostPort, name, protocol) => ⟨port, ip, hostPort, name, protocol⟩)
      (fun p => (p.port, p.hostIp, p.hostPort, p.name, p.protocol))
    |>.object

structure ResizePolicy where
  resource : String
  restart : String
  deriving DecidableEq, Repr

def ResizePolicy.codec : Codec ResizePolicy :=
  ((filled "resourceName" "" text).and <| filled "restartPolicy" "" text)
    |>.as (fun (resource, restart) => ⟨resource, restart⟩) (fun p => (p.resource, p.restart))
    |>.object

structure VolumeDevice where
  path : String
  name : String
  deriving DecidableEq, Repr

def VolumeDevice.codec : Codec VolumeDevice :=
  ((filled "devicePath" "" text).and <| filled "name" "" text)
    |>.as (fun (path, name) => ⟨path, name⟩) (fun d => (d.path, d.name))
    |>.object

/-- The settings that build steps leave alone. -/
structure ContainerSettings where
  envFrom : Option (List EnvGroup)
  imagePullPolicy : Option String
  lifecycle : Option Lifecycle
  livenessProbe : Option Probe
  ports : Option (List ContainerPort)
  readinessProbe : Option Probe
  resizePolicy : Option (List ResizePolicy)
  restartPolicy : Option String
  startupProbe : Option Probe
  stdin : Option Bool
  stdinOnce : Option Bool
  messagePath : Option String
  messagePolicy : Option String
  tty : Option Bool
  volumeDevices : Option (List VolumeDevice)
  workingDir : Option String
  deriving DecidableEq, Repr

namespace ContainerSettings

def unset : ContainerSettings :=
  ⟨none, none, none, none, none, none, none, none, none, none, none, none, none, none, none, none⟩

def format : Format ContainerSettings :=
  ((optional "envFrom" (list EnvGroup.codec)).and <|
    (optional "imagePullPolicy" text).and <|
    (optional "lifecycle" Lifecycle.codec).and <|
    (optional "livenessProbe" Probe.codec).and <|
    (optional "ports" (list ContainerPort.codec)).and <|
    (optional "readinessProbe" Probe.codec).and <|
    (optional "resizePolicy" (list ResizePolicy.codec)).and <|
    (optional "restartPolicy" text).and <|
    (optional "startupProbe" Probe.codec).and <|
    (optional "stdin" bool).and <|
    (optional "stdinOnce" bool).and <|
    (optional "terminationMessagePath" text).and <|
    (optional "terminationMessagePolicy" text).and <|
    (optional "tty" bool).and <|
    (optional "volumeDevices" (list VolumeDevice.codec)).and <|
    optional "workingDir" text)
    |>.as (fun (envFrom, pull, lifecycle, live, ports, ready, resize, restart, startup, stdin, once,
        path, policy, tty, devices, dir) =>
        ⟨envFrom, pull, lifecycle, live, ports, ready, resize, restart, startup, stdin, once,
          path, policy, tty, devices, dir⟩)
      (fun s => (s.envFrom, s.imagePullPolicy, s.lifecycle, s.livenessProbe, s.ports,
        s.readinessProbe, s.resizePolicy, s.restartPolicy, s.startupProbe, s.stdin, s.stdinOnce,
        s.messagePath, s.messagePolicy, s.tty, s.volumeDevices, s.workingDir))

end ContainerSettings

structure Container where
  name : String
  image : Option String
  command : Option (List String)
  args : Option (List String)
  env : Option (List EnvVar)
  mounts : Option (List VolumeMount)
  resources : Option ResourceRequirements
  security : Option SecurityContext
  settings : ContainerSettings
  deriving DecidableEq, Repr

namespace Container

def codec : Codec Container :=
  ((optional "args" (list text)).and <|
    (optional "command" (list text)).and <|
    (optional "env" (list EnvVar.codec)).and <|
    (optional "image" text).and <|
    (filled "name" "" text).and <|
    (optional "resources" ResourceRequirements.codec).and <|
    (optional "securityContext" SecurityContext.codec).and <|
    (optional "volumeMounts" (list VolumeMount.codec)).and <|
    ContainerSettings.format)
    |>.as (fun (args, command, env, image, name, resources, security, mounts, settings) =>
        ⟨name, image, command, args, env, mounts, resources, security, settings⟩)
      (fun c => (c.args, c.command, c.env, c.image, c.name, c.resources, c.security, c.mounts,
        c.settings))
    |>.object

end Container

end ImageBuild
