import Concordd.Instance.Updates

/-! Which handler a frame goes to. -/
namespace Concordd

variable {env : Env} {self : ConcorddInstance} {b : Buffer} {n : ℕ}

/-! The types. -/

theorem handleFrame_of_subcmd (h : IsPta b .subcmd) :
    concorddHandleFrame env self b n = concorddHandleSubcmd env self b n := by
  delta concorddHandleFrame
  rw [show GeRs232Pta.ofByte (b 0) = .subcmd from h]

theorem handleFrame_of_subcmd2 (h : IsPta b .subcmd2) :
    concorddHandleFrame env self b n = concorddHandleSubcmd2 env self b := by
  delta concorddHandleFrame
  rw [show GeRs232Pta.ofByte (b 0) = .subcmd2 from h]

theorem handleFrame_clear (h : IsPta b .clearAutomationDynamicImage) :
    concorddHandleFrame env self b n = concorddRefresh env self none := by
  delta concorddHandleFrame
  rw [show GeRs232Pta.ofByte (b 0) = .clearAutomationDynamicImage from h]

theorem handleFrame_complete (h : IsPta b .equipListComplete) :
    concorddHandleFrame env self b n = ⟨(concorddDynamicDataRefresh env self none).state,
      (concorddDynamicDataRefresh env self none).out, .ok⟩ := by
  delta concorddHandleFrame
  rw [show GeRs232Pta.ofByte (b 0) = .equipListComplete from h]

theorem handleFrame_of_zoneStatus (h : IsPta b .zoneStatus) :
    concorddHandleFrame env self b n = concorddHandleZoneStatus env self b := by
  delta concorddHandleFrame
  rw [show GeRs232Pta.ofByte (b 0) = .zoneStatus from h]

theorem handleFrame_of_equipListPartitionData (h : IsPta b .equipListPartitionData) :
    concorddHandleFrame env self b n = concorddHandleEquipListPartitionData self b := by
  delta concorddHandleFrame
  rw [show GeRs232Pta.ofByte (b 0) = .equipListPartitionData from h]

theorem handleFrame_of_equipListZoneData (h : IsPta b .equipListZoneData) :
    concorddHandleFrame env self b n = concorddHandleEquipListZoneData self b n := by
  delta concorddHandleFrame
  rw [show GeRs232Pta.ofByte (b 0) = .equipListZoneData from h]

theorem handleFrame_of_equipListUserData (h : IsPta b .equipListUserData) :
    concorddHandleFrame env self b n = concorddHandleEquipListUserData self b := by
  delta concorddHandleFrame
  rw [show GeRs232Pta.ofByte (b 0) = .equipListUserData from h]

theorem handleFrame_of_equipListSuperbusDevData (h : IsPta b .equipListSuperbusDevData) :
    concorddHandleFrame env self b n = concorddHandleEquipListSuperbusDevData self b := by
  delta concorddHandleFrame
  rw [show GeRs232Pta.ofByte (b 0) = .equipListSuperbusDevData from h]

theorem handleFrame_of_equipListSuperbusCapData (h : IsPta b .equipListSuperbusCapData) :
    concorddHandleFrame env self b n = concorddHandleEquipListSuperbusCapData self b := by
  delta concorddHandleFrame
  rw [show GeRs232Pta.ofByte (b 0) = .equipListSuperbusCapData from h]

theorem handleFrame_of_equipListOutputData (h : IsPta b .equipListOutputData) :
    concorddHandleFrame env self b n = concorddHandleEquipListOutputData self b n := by
  delta concorddHandleFrame
  rw [show GeRs232Pta.ofByte (b 0) = .equipListOutputData from h]

theorem handleFrame_of_equipListLightToSensorData (h : IsPta b .equipListLightToSensorData) :
    concorddHandleFrame env self b n = concorddHandleEquipListLightToSensorData self b := by
  delta concorddHandleFrame
  rw [show GeRs232Pta.ofByte (b 0) = .equipListLightToSensorData from h]

theorem handleFrame_of_panelType (h : IsPta b .panelType) :
    concorddHandleFrame env self b n = concorddHandlePanelType self b := by
  delta concorddHandleFrame
  rw [show GeRs232Pta.ofByte (b 0) = .panelType from h]

/-! The subtypes. -/

theorem handleFrame_of_sirenSetup (h : IsSubcmd b .sirenSetup) :
    concorddHandleFrame env self b n = concorddHandleSirenSetup env self b := by
  rw [handleFrame_of_subcmd h.1]
  delta concorddHandleSubcmd
  rw [h.2]

theorem handleFrame_of_sirenStop (h : IsSubcmd b .sirenStop) :
    concorddHandleFrame env self b n = concorddHandleSirenStop self b := by
  rw [handleFrame_of_subcmd h.1]
  delta concorddHandleSubcmd
  rw [h.2]

theorem handleFrame_of_sirenGo (h : IsSubcmd b .sirenGo) :
    concorddHandleFrame env self b n = concorddHandleSirenGo self := by
  rw [handleFrame_of_subcmd h.1]
  delta concorddHandleSubcmd
  rw [h.2]

theorem handleFrame_of_touchpadDisplay (h : IsSubcmd b .touchpadDisplay) :
    concorddHandleFrame env self b n = concorddHandleTouchpadDisplay self b n := by
  rw [handleFrame_of_subcmd h.1]
  delta concorddHandleSubcmd
  rw [h.2]

theorem handleFrame_of_level (h : IsSubcmd b .level) :
    concorddHandleFrame env self b n = concorddHandleLevel env self b := by
  rw [handleFrame_of_subcmd h.1]
  delta concorddHandleSubcmd
  rw [h.2]

theorem handleFrame_of_alarmTrouble (h : IsSubcmd b .alarmTrouble) :
    concorddHandleFrame env self b n =
      concorddHandleAlarm env self (b 2) (b 4) (word24 (b 5) (b 6) (b 7)) (b 8) (b 9)
        (word16 (b 10) (b 11)) := by
  rw [handleFrame_of_subcmd h.1]
  delta concorddHandleSubcmd
  rw [h.2]

theorem handleFrame_of_entryExitDelay (h : IsSubcmd b .entryExitDelay) :
    concorddHandleFrame env self b n = concorddHandleEntryExitDelay self b := by
  rw [handleFrame_of_subcmd h.1]
  delta concorddHandleSubcmd
  rw [h.2]

theorem handleFrame_of_featureState (h : IsSubcmd b .featureState) :
    concorddHandleFrame env self b n = concorddHandleFeatureState self b := by
  rw [handleFrame_of_subcmd h.1]
  delta concorddHandleSubcmd
  rw [h.2]

theorem handleFrame_of_lightsState (h : IsSubcmd2 b .lightsState) :
    concorddHandleFrame env self b n = concorddHandleLightsState env self b := by
  rw [handleFrame_of_subcmd2 h.1]
  delta concorddHandleSubcmd2
  rw [h.2]

theorem handleFrame_of_userLights (h : IsSubcmd2 b .userLights) :
    concorddHandleFrame env self b n = concorddHandleUserLights env self b := by
  rw [handleFrame_of_subcmd2 h.1]
  delta concorddHandleSubcmd2
  rw [h.2]

theorem handleFrame_of_keyfob (h : IsSubcmd2 b .keyfob) :
    concorddHandleFrame env self b n = concorddHandleKeyfob env self b := by
  rw [handleFrame_of_subcmd2 h.1]
  delta concorddHandleSubcmd2
  rw [h.2]

end Concordd
