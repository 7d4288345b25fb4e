import PodReach.Config.Basic
import PodReach.World.Effects
import PodReach.Yaml.Reader
import PodReach.Yaml.Writer

/-!
# The settings file

Settings are looked for in the place that the environment names, then in the current directory,
then in the home directory; the first place where something lies counts. A file that cannot be
read, or breaks the rules of its format, is reported and left out. Where there is none, someone
at a terminal is asked for the settings, which are then written down.
-/

namespace PodReach.Config

open Run

/-- A format in which settings are kept. -/
structure Format where
  read : String → Except Yaml.Defect Yaml
  write : List (Yaml × Yaml) → String

/-- Settings are kept as YAML. -/
def yamlFormat : Format := ⟨Yaml.read, Yaml.writeMapping⟩

/-- The name of a settings file in a directory. -/
def fileName : String := ".devkubeconfig"

/-- The settings file of the current directory. -/
def directoryPath (w : World) : String := Path.inside w.directory fileName

/-- The settings file of the home directory. -/
def homePath (w : World) : String := Path.expandTilde w.home ("~/" ++ fileName)

/-- The places where settings may lie, the first one first. -/
def candidates (w : World) : List String :=
  (Text.nonempty w.settingsPath).toList ++ [directoryPath w, homePath w]

/-- The place where settings lie, if there is one. -/
def find? (w : World) : Option String :=
  (candidates w).find? w.existsAt

/-- The text of the settings: every one that is not null. -/
def written (format : Format) (config : Config) : String :=
  format.write (config.entries.filter fun (_, value) =>
    match value with | .null => false | _ => true)

/-- Write settings to a file, if one can be written there. -/
def save (format : Format) (path : String) (config : Config) : Run Unit := do
  match (← get).write? path (written format config) with
  | some w => set w
  | none => throw (.fault (.os "Permission denied"))

/-- Report a settings file that cannot be used. -/
def warnUnreadable (detail : String) : Run Unit :=
  Console.warning s!"读取配置文件失败: {detail}"

/-- What the wizard says first. -/
def greeting : String :=
  "[bold cyan]欢迎使用 devkube![/bold cyan]\n\n"
    ++ "  首次使用，让我们快速完成初始化配置。\n"
    ++ "  所有选项都有默认值，直接回车即可跳过。"

/-- Ask for the settings and write them down. -/
def wizard (format : Format) : Run Config := do
  Console.line ""
  Console.display (.panel greeting (some "🔧 初始化配置"))
  Console.line ""
  let here := directoryPath (← get)
  let home := homePath (← get)
  let path ← Console.choose "配置文件存放位置"
    [(s!"当前目录 ({here})", here), (s!"用户目录 ({home})", home)] (some here)
  let ns := Text.strip (← Console.ask "Kubernetes 命名空间 (留空使用 kubeconfig 中的设置)")
  let typed ← Console.askNumber "等待 Pod 就绪的最长时间 (秒)" 120 10 3600
  match Text.readInteger? typed with
  | none => throw (.mistake .badValue)
  | some wait => do
    let named := if ns.isEmpty then usual else usual.put "namespace" (.text ns)
    let config := named.put "max_wait" (.integer wait)
    save format path config
    Console.line s!"[green]✅ 配置已保存: {path}[/green]"
    Console.line "[dim]后续可直接编辑该文件修改配置[/dim]"
    Console.line ""
    return config

/-- A mistake in the settings ends the run. -/
def orHalt {α : Type} : Except Mistake α → Run α
  | .ok a => pure a
  | .error mistake => throw (.mistake mistake)

/-- The value of a settings file, if what lies there can be opened and keeps to the rules of the
format. -/
def Format.valueOf? (format : Format) : Option Lying → Except Mistake (Option Yaml)
  | none => .ok none
  | some lying =>
    match lying.read with
    | .error (.mistake mistake) => .error mistake
    | .error _ => .ok none
    | .ok content =>
      match format.read content with
      | .ok value => .ok (some value)
      | .error .malformed => .ok none
      | .error (.mistake mistake) => .error mistake

/-- What is reported about the file at a path. -/
def complaintAbout (w : World) (path : String) : String :=
  w.complaint path (w.fileAt? path)

/-- The settings of the file at a path. -/
def readFrom (format : Format) (path : String) : Run Config := do
  match ← orHalt (format.valueOf? ((← get).fileAt? path)) with
  | some value => return usual.merge (← orHalt (entriesOf value))
  | none => do
    warnUnreadable (complaintAbout (← get) path)
    return usual

/-- The settings of this run. -/
def load (format : Format) (asks : Bool) : Run Config := do
  let config ← match find? (← get) with
    | some path => readFrom format path
    | none => if asks then wizard format else pure usual
  orHalt (config.expandPaths (← get).home)

end PodReach.Config
