import PodReach.Command.Target
import PodReach.Forward.Run
import PodReach.Net.Address

/-!
# Forwarding ports until interrupted

The command warns about addresses that can be reached from outside, starts the run, reports
what is forwarded and waits. An interrupt stops the run; a lost pod ends it with a failure.
-/

namespace PodReach.Command

open Run Forward

/-- Warn if an address can be reached from outside. -/
def warnIfReachable (address : Yaml) : Run Unit := do
  let shown := address.shown
  if !Yaml.same address (.text "localhost") && !Net.isPrivateText shown then
    Console.warning s!"地址 {shown} 不是私有地址，转发端口可能被外部访问"

/-- The texts of addresses, if all of them are texts. -/
def addressTexts? (addresses : List Yaml) : Option (List String) :=
  addresses.mapM fun a => match a with | .text s => some s | _ => none

/-- Report what is forwarded. -/
def reportForwarding (podName : String) (addresses : List String) (ports : List Port) :
    Run Unit := do
  Console.line ""
  let joined := ", ".intercalate addresses
  ports.forM fun port =>
    Console.info s!"端口转发: {joined}:{port.localPort} -> {podName}:{port.remotePort}"
  Console.line "[dim]按 Ctrl+C 停止端口转发[/dim]\n"

/-- Report what is forwarded and wait for the end of the run. It ends by itself only when the pod is
lost; otherwise it would go on for ever. -/
def waitForEnd (job : Job) (f : Forwarder) (addresses : List String) : Run Unit := do
  let reported ← attempt (reportForwarding (Text.orNone job.podName) addresses f.ports)
  match reported with
  | .ok _ => do
    let seen ← step job f (.look false)
    match seen.ending with
    | some (.failed failure) => fail failure
    | _ => throw .endless
  | .error .interrupted => do
    Console.info "正在停止端口转发..."
    let _ ← step job f (.look true)
    Console.line "[dim]端口转发已停止[/dim]"
  | .error halt => do
    let _ ← step job f (.look true)
    throw halt

/-- Forward ports of a pod until interrupted. -/
def forwardPorts (selector : Selector) (ports : List String) (addresses : List Yaml) :
    Run Unit := do
  match ← resolveTarget selector true with
  | none => pure ()
  | some (pod, _) =>
    addresses.forM warnIfReachable
    let texts := addressTexts? addresses
    let job ← Job.make pod ports (texts.getD [])
    match texts with
    | none => do
      release job default
      throw (.mistake .wrongKind)
    | some texts => do
      let f ← start job
      match f.ending with
      | some (.failed failure) => fail failure
      | some (.mistaken mistake) => throw (.mistake mistake)
      | _ => do
        let served ← follow job f (Schedule.serial (← get).network f.listeners)
        waitForEnd job served texts

end PodReach.Command
