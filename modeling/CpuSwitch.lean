import CpuSwitch.CLib.Text
import CpuSwitch.CLib.Search
import CpuSwitch.CLib.Double
import CpuSwitch.CLib.Integer
import CpuSwitch.CLib.Rounding
import CpuSwitch.CLib.Decimal
import CpuSwitch.CLib.Boundary
import CpuSwitch.CLib.Literal
import CpuSwitch.CLib.Printed
import CpuSwitch.CLib.Scan
import CpuSwitch.CLib.Calls
import CpuSwitch.CLib.Stream
import CpuSwitch.CLib.Run
import CpuSwitch.Json.Flat
import CpuSwitch.Cpufreq.Model
import CpuSwitch.Cpufreq.Current
import CpuSwitch.Cpufreq.Cpuinfo
import CpuSwitch.Cpufreq.Policy
import CpuSwitch.Cpufreq.Detection
import CpuSwitch.Cpufreq.Order
import CpuSwitch.Cpufreq.Strict
import CpuSwitch.Cpufreq.Intersection
import CpuSwitch.Cpufreq.Fallback
import CpuSwitch.Config.Model
import CpuSwitch.Config.Reader
import CpuSwitch.Config.Fields
import CpuSwitch.Config.Writer
import CpuSwitch.Config.Tokens
import CpuSwitch.Config.Lookup
import CpuSwitch.Config.Numeric
import CpuSwitch.Config.Unknown
import CpuSwitch.Config.Runtime
import CpuSwitch.Daemon.Model
import CpuSwitch.Daemon.Agreement
import CpuSwitch.Daemon.Hysteresis
import CpuSwitch.Daemon.Limits
import CpuSwitch.Daemon.Startup
import CpuSwitch.Daemon.Usage
import CpuSwitch.Daemon.Recovery
import CpuSwitch.Daemon.Strict
import CpuSwitch.Daemon.Process
import CpuSwitch.Daemon.Service
import CpuSwitch.Daemon.Load
import CpuSwitch.Undervolt.Model
import CpuSwitch.Undervolt.Lines
import CpuSwitch.Undervolt.Rewrite
import CpuSwitch.Undervolt.RoundTrip
import CpuSwitch.Undervolt.Resave
import CpuSwitch.Undervolt.Shape
import CpuSwitch.Undervolt.Report
import CpuSwitch.Undervolt.ReportLines
import CpuSwitch.Command.Model
import CpuSwitch.Gui.Model
import CpuSwitch.Gui.Voltage
import CpuSwitch.Gui.Visibility
import CpuSwitch.Gui.Applied
import CpuSwitch.Gui.Frequency
import CpuSwitch.Gui.Normalize
import CpuSwitch.Gui.Clocks
import CpuSwitch.Gui.Widgets
import CpuSwitch.Gui.Metrics
import CpuSwitch.Gui.Save
import CpuSwitch.Gui.Saved
import CpuSwitch.Gui.Reports
import CpuSwitch.Gui.Reload
import CpuSwitch.Joint.Interleaving
import CpuSwitch.Setup.Model
import CpuSwitch.Setup.Repair
import CpuSwitch.Setup.Settings
