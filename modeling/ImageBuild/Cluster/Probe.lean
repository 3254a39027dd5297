import ImageBuild.Codec

/-!
# Probes and lifecycle hooks of a container

A probe or a hook runs a command, or reaches the container over the network.
-/
namespace ImageBuild

open Codec Format

/-- A port by its number or by its name. -/
inductive Port where
  | number (n : Int32)
  | name (s : String)
  deriving DecidableEq, Repr

namespace Port

def encode : Port → Json
  | .number n => int32.encode n
  | .name s => .str s

def decode (d : Document) : Option Port :=
  match d with
  | .str s => some (.name s)
  | d => d.int32?.map .number

def codec : Codec Port := ⟨encode, decode⟩

end Port

structure ExecAction where
  command : Option (List String)
  deriving DecidableEq, Repr

def ExecAction.codec : Codec ExecAction :=
  (optional "command" (list text)).as (fun command => ⟨command⟩) (fun a => a.command) |>.object

structure HttpHeader where
  name : String
  value : String
  deriving DecidableEq, Repr

def HttpHeader.codec : Codec HttpHeader :=
  ((filled "name" "" text).and <| filled "value" "" text)
    |>.as (fun (name, value) => ⟨name, value⟩) (fun h => (h.name, h.value))
    |>.object

structure HttpGetAction where
  host : Option String
  headers : Option (List HttpHeader)
  path : Option String
  port : Port
  scheme : Option String
  deriving DecidableEq, Repr

def HttpGetAction.codec : Codec HttpGetAction :=
  ((optional "host" text).and <| (optional "httpHeaders" (list HttpHeader.codec)).and <|
    (optional "path" text).and <| (filled "port" (.number 0) Port.codec).and <|
    optional "scheme" text)
    |>.as (fun (host, headers, path, port, scheme) => ⟨host, headers, path, port, scheme⟩)
      (fun a => (a.host, a.headers, a.path, a.port, a.scheme))
    |>.object

structure TcpSocketAction where
  host : Option String
  port : Port
  deriving DecidableEq, Repr

def TcpSocketAction.codec : Codec TcpSocketAction :=
  ((optional "host" text).and <| filled "port" (.number 0) Port.codec)
    |>.as (fun (host, port) => ⟨host, port⟩) (fun a => (a.host, a.port))
    |>.object

structure GrpcAction where
  port : Int32
  service : Option String
  deriving DecidableEq, Repr

def GrpcAction.codec : Codec GrpcAction :=
  ((filled "port" 0 int32).and <| optional "service" text)
    |>.as (fun (port, service) => ⟨port, service⟩) (fun a => (a.port, a.service))
    |>.object

structure SleepAction where
  seconds : Int64
  deriving DecidableEq, Repr

def SleepAction.codec : Codec SleepAction :=
  (filled "seconds" 0 int64).as (fun seconds => ⟨seconds⟩) (fun a => a.seconds) |>.object

structure Probe where
  exec : Option ExecAction
  failureThreshold : Option Int32
  grpc : Option GrpcAction
  httpGet : Option HttpGetAction
  initialDelaySeconds : Option Int32
  periodSeconds : Option Int32
  successThreshold : Option Int32
  tcpSocket : Option TcpSocketAction
  graceSeconds : Option Int64
  timeoutSeconds : Option Int32
  deriving DecidableEq, Repr

def Probe.codec : Codec Probe :=
  ((optional "exec" ExecAction.codec).and <|
    (optional "failureThreshold" int32).and <|
    (optional "grpc" GrpcAction.codec).and <|
    (optional "httpGet" HttpGetAction.codec).and <|
    (optional "initialDelaySeconds" int32).and <|
    (optional "periodSeconds" int32).and <|
    (optional "successThreshold" int32).and <|
    (optional "tcpSocket" TcpSocketAction.codec).and <|
    (optional "terminationGracePeriodSeconds" int64).and <|
    optional "timeoutSeconds" int32)
    |>.as (fun (exec, failure, grpc, http, delay, period, success, tcp, grace, timeout) =>
        ⟨exec, failure, grpc, http, delay, period, success, tcp, grace, timeout⟩)
      (fun p => (p.exec, p.failureThreshold, p.grpc, p.httpGet, p.initialDelaySeconds,
        p.periodSeconds, p.successThreshold, p.tcpSocket, p.graceSeconds, p.timeoutSeconds))
    |>.object

structure LifecycleHandler where
  exec : Option ExecAction
  httpGet : Option HttpGetAction
  sleep : Option SleepAction
  tcpSocket : Option TcpSocketAction
  deriving DecidableEq, Repr

def LifecycleHandler.codec : Codec LifecycleHandler :=
  ((optional "exec" ExecAction.codec).and <| (optional "httpGet" HttpGetAction.codec).and <|
    (optional "sleep" SleepAction.codec).and <| optional "tcpSocket" TcpSocketAction.codec)
    |>.as (fun (exec, http, sleep, tcp) => ⟨exec, http, sleep, tcp⟩)
      (fun h => (h.exec, h.httpGet, h.sleep, h.tcpSocket))
    |>.object

structure Lifecycle where
  postStart : Option LifecycleHandler
  preStop : Option LifecycleHandler
  deriving DecidableEq, Repr

def Lifecycle.codec : Codec Lifecycle :=
  ((optional "postStart" LifecycleHandler.codec).and <| optional "preStop" LifecycleHandler.codec)
    |>.as (fun (start, stop) => ⟨start, stop⟩) (fun l => (l.postStart, l.preStop))
    |>.object

end ImageBuild
