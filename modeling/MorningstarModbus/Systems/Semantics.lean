import Mathlib.Algebra.Field.Rat
import MorningstarModbus.Lib.Table

/-!
# MorningstarModbus.Systems.Semantics

The metrics of a system (`systems/semantics.py`): the registers that can supply
each, in order of priority, and how the contributions of the controllers
combine.
-/

namespace MorningstarModbus

inductive NumericAggregation where
  | sum
  | median
  | max
  | min
  | latest
  deriving DecidableEq

/-- `SystemAggregation` -/
inductive SystemAggregation where
  | numeric (a : NumericAggregation)
  | stateSet
  deriving DecidableEq

structure SystemMetricSpec where
  name : String
  unit : Option String
  aggregation : SystemAggregation
  registers : List String
  deriving DecidableEq

/-- `SYSTEM_METRICS` -/
def systemMetrics : List SystemMetricSpec :=
  [ { name := "solar_input_power_w", unit := some "W", aggregation := .numeric .sum,
      registers := ["input_power", "array_power", "pv_power", "solar_power",
        "input_power_reported"] },
    { name := "charge_output_power_w", unit := some "W", aggregation := .numeric .sum,
      registers := ["output_power", "charge_power", "battery_charge_power"] },
    { name := "battery_charge_current_a", unit := some "A", aggregation := .numeric .sum,
      registers := ["battery_charge_current", "charge_current", "output_current"] },
    { name := "system_charge_current_a", unit := some "A", aggregation := .numeric .median,
      registers := ["system_charge_current"] },
    { name := "battery_net_current_a", unit := some "A", aggregation := .numeric .median,
      registers := ["system_battery_current"] },
    { name := "system_load_current_a", unit := some "A", aggregation := .numeric .median,
      registers := ["system_load_current"] },
    { name := "battery_voltage_v", unit := some "V", aggregation := .numeric .median,
      registers := ["battery_sense_voltage", "battery_terminal_voltage", "battery_voltage",
        "battery_voltage_1m"] },
    { name := "load_voltage_v", unit := some "V", aggregation := .numeric .median,
      registers := ["load_voltage"] },
    { name := "array_voltage_v", unit := some "V", aggregation := .numeric .max,
      registers := ["array_voltage", "pv_voltage", "solar_voltage"] },
    { name := "battery_soc_percent", unit := some "%", aggregation := .numeric .median,
      registers := ["battery_soc", "batt_soc", "state_of_charge", "soc"] },
    { name := "battery_temperature_c", unit := some "C", aggregation := .numeric .median,
      registers := ["battery_temp", "battery_temperature", "rts_temp"] },
    { name := "daily_charge_wh", unit := some "Wh", aggregation := .numeric .sum,
      registers := ["daily_charge_wh", "charge_wh_daily", "daily_energy_wh"] },
    { name := "daily_charge_kwh", unit := some "kWh", aggregation := .numeric .sum,
      registers := ["daily_charge_kwh", "internal_charge_kwh_daily"] },
    { name := "daily_charge_ah", unit := some "Ah", aggregation := .numeric .sum,
      registers := ["daily_charge_ah", "charge_ah_daily", "daily_amp_hours",
        "internal_charge_ah_daily"] },
    { name := "lifetime_charge_kwh", unit := some "kWh", aggregation := .numeric .sum,
      registers := ["charge_kwh_total", "lifetime_energy_kwh", "energy_total_kwh",
        "internal_charge_kwh_total"] },
    { name := "system_charge_kwh_daily", unit := some "kWh", aggregation := .numeric .median,
      registers := ["system_charge_kwh_daily"] },
    { name := "system_charge_ah_daily", unit := some "Ah", aggregation := .numeric .median,
      registers := ["system_charge_ah_daily"] },
    { name := "system_battery_ah_daily", unit := some "Ah", aggregation := .numeric .median,
      registers := ["system_battery_ah_daily"] },
    { name := "system_load_ah_daily", unit := some "Ah", aggregation := .numeric .median,
      registers := ["system_load_ah_daily"] },
    { name := "external_source_charge_kwh_daily", unit := some "kWh", aggregation := .numeric .median,
      registers := ["aggregated_shunt_charge_kwh_daily"] },
    { name := "external_source_charge_ah_daily", unit := some "Ah", aggregation := .numeric .median,
      registers := ["aggregated_shunt_charge_ah_daily"] },
    { name := "shunt_battery_net_ah_daily", unit := some "Ah", aggregation := .numeric .median,
      registers := ["aggregated_shunt_battery_ah_daily"] },
    { name := "shunt_load_ah_daily", unit := some "Ah", aggregation := .numeric .median,
      registers := ["aggregated_shunt_load_ah_daily"] },
    { name := "charge_state", unit := none, aggregation := .stateSet,
      registers := ["charge_state", "charger_state"] },
    { name := "faults", unit := none, aggregation := .stateSet,
      registers := ["faults", "fault_state", "active_faults"] },
    { name := "alarms", unit := none, aggregation := .stateSet,
      registers := ["alarms", "alarm_state", "active_alarms"] } ]

/-- `metric_spec` -/
def metricSpec (name : String) : Option SystemMetricSpec :=
  Table.lookup SystemMetricSpec.name name systemMetrics

theorem registers_ne_nil {name : String} {spec : SystemMetricSpec}
    (h : metricSpec name = some spec) : spec.registers ≠ [] := by
  have hall : ∀ m ∈ systemMetrics, m.registers ≠ [] := by decide
  exact hall spec (Table.mem_of_lookup h).1

/-- The numbers of a metric combine without regard to their order. -/
theorem aggregation_ne_latest {name : String} {spec : SystemMetricSpec}
    (h : metricSpec name = some spec) : spec.aggregation ≠ .numeric .latest := by
  have hall : ∀ m ∈ systemMetrics, m.aggregation ≠ .numeric .latest := by decide
  exact hall spec (Table.mem_of_lookup h).1

end MorningstarModbus
